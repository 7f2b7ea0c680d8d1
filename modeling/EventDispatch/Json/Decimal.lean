import EventDispatch.Arithmetic
import EventDispatch.Json.Double
/-!
Shortest decimal digits of a double.

Purpose: the fewest decimal digits that read back as the same double, and the two ways of laying
them out: positional, and with an exponent.

A double owns the interval of reals that round to it; its ends belong to it when its significand is
even. A grid of `k` digits is the set of multiples of the power of ten that leaves `k` digits before
the point. For `k = 1, 2, …` the two neighbours of the value on the grid are tested; the first grid
with a neighbour inside the interval decides, and of two neighbours inside the nearer one is taken
(the even one when both are equally near).

Main exports: `Decimal`, `Double.decimal`, `Decimal.positional`, `Decimal.withExponent`.
-/

namespace EventDispatch

open scoped Arithmetic

/-- A positive decimal `digits · 10 ^ scale`. -/
structure Decimal where
  digits : Nat
  scale : Int
deriving DecidableEq, Repr, Inhabited

namespace Decimal

/-- The digits as characters. -/
def digitChars (d : Decimal) : List Char := Nat.toDigits 10 d.digits

/-- The exponent in scientific notation: the power of ten of the first digit. -/
def exponent (d : Decimal) : Int := d.scale + (d.digitChars.length : Int) - 1

/-- Removes trailing zeros from the digits, moving them into the scale. -/
def dropZeros : Nat → Decimal → Decimal
  | 0, d => d
  | fuel + 1, d =>
    if d.digits ≠ 0 ∧ d.digits % 10 = 0 then dropZeros fuel ⟨d.digits / 10, d.scale + 1⟩ else d

/-- Positional notation without a trailing point: `0.001`, `1.5`, `120`. -/
def positional (d : Decimal) : List Char :=
  let cs := d.digitChars
  let point := d.exponent + 1
  if point ≤ 0 then '0' :: '.' :: (List.replicate (-point).toNat '0' ++ cs)
  else if cs.length ≤ point.toNat then cs ++ List.replicate (point.toNat - cs.length) '0'
  else cs.take point.toNat ++ '.' :: cs.drop point.toNat

/-- Scientific notation with a signed exponent: `1.5e+300`, `1e-7`. -/
def withExponent (d : Decimal) : List Char :=
  let mantissa := match d.digitChars with
    | [] => []
    | [c] => [c]
    | c :: cs => c :: '.' :: cs
  let e := d.exponent
  mantissa ++ 'e' :: (if e < 0 then '-' else '+') :: Nat.toDigits 10 e.natAbs

end Decimal

namespace Double

/-- The interval of magnitudes that round to a double, in quarters of `2 ^ -1074`. -/
structure Interval where
  low : Nat
  value : Nat
  high : Nat
  /-- Whether the two ends round to the double as well. -/
  closed : Bool
deriving DecidableEq, Repr

/-- The interval of a magnitude. Below the least significand of an exponent the next magnitude is
half as far away as above it. -/
def interval (x : Double) : Interval :=
  let m := x.significand
  let gap := 2 ^ x.exponent
  let below := if m = rankStep ∧ 0 < x.exponent then gap else 2 * gap
  { low := 4 * x.units - below, value := 4 * x.units, high := 4 * x.units + 2 * gap
    closed := m % 2 = 0 }

/-- Whether `num / den` quarters of `2 ^ -1074` lie in the interval. -/
def Interval.contains (i : Interval) (num den : Nat) : Bool :=
  if i.closed then decide (i.low * den ≤ num ∧ num ≤ i.high * den)
  else decide (i.low * den < num ∧ num < i.high * den)

/-- The numerator and denominator of `10 ^ scale` in quarters of `2 ^ -1074`. -/
def gridUnit (scale : Int) : Nat × Nat :=
  if 0 ≤ scale then (10 ^ scale.toNat * 2 ^ (1076 : Nat), 1)
  else (2 ^ (1076 : Nat), 10 ^ (-scale).toNat)

/-- The neighbour of the value on the grid of multiples of `10 ^ scale`, if one lies in the
interval. -/
def Interval.neighbour? (i : Interval) (scale : Int) : Option Decimal :=
  let (num, den) := gridUnit scale
  let floor := i.value * den / num
  let inside (n : Nat) : Bool := i.contains (n * num) den
  let offset := i.value * den - floor * num
  let preferFloor := 2 * offset < num || (2 * offset == num && floor % 2 == 0)
  match inside floor && floor != 0, inside (floor + 1) with
  | true, true => some ⟨if preferFloor then floor else floor + 1, scale⟩
  | true, false => some ⟨floor, scale⟩
  | false, true => some ⟨floor + 1, scale⟩
  | false, false => none

/-- The power of ten of a magnitude's first digit. -/
def leadingExponent (i : Interval) : Int :=
  let whole := i.value / 2 ^ (1076 : Nat)
  if whole ≠ 0 then ((Nat.toDigits 10 whole).length : Int) - 1
  else
    let inverse := (2 ^ (1076 : Nat) + i.value - 1) / i.value
    Int.neg (Nat.toDigits 10 (inverse - 1)).length

/-- Tries finer and finer grids; the exact decimal expansion ends the search. -/
def Interval.search (i : Interval) (leading : Int) : (fuel digits : Nat) → Decimal
  | 0, _ => ⟨i.value * 5 ^ (1076 : Nat), -1076⟩
  | fuel + 1, digits =>
    match i.neighbour? (leading - digits) with
    | some d => d
    | none => i.search leading fuel (digits + 1)

/-- The shortest decimal that reads back as a magnitude other than zero. -/
def decimal (x : Double) : Decimal :=
  let i := x.interval
  let d := i.search (leadingExponent i) 17 0
  d.dropZeros (d.digitChars.length)

end Double
end EventDispatch
