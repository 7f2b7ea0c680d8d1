import EventDispatch.Arithmetic
import EventDispatch.Json.Number
/-!
The values of JSON number literals.

Purpose: an integer literal that fits 64 bits is that integer; every other literal is a double. The
digits are gathered into a significand of at most 64 bits, digits that no longer fit are dropped,
and the significand is scaled by one rounded multiplication with, or rounded division by, a power of
ten.

Main exports: `Literal`, `Literal.value?`.
-/

namespace EventDispatch

open scoped Arithmetic

/-- A number literal, as digits. A fraction and an exponent are present or absent. -/
structure Literal where
  negative : Bool
  whole : List Nat
  fraction : Option (List Nat)
  exponent : Option Int
deriving DecidableEq, Repr, Inhabited

namespace Literal

/-- Appends digits to a significand while it fits 64 bits. The result tells how many digits were
taken and how many were left. -/
def gather (significand : Nat) : List Nat → Nat × Nat × Nat
  | [] => (significand, 0, 0)
  | d :: ds =>
    let next := 10 * significand + d
    if next < 2 ^ (64 : Nat) then
      let (s, taken, left) := gather next ds
      (s, taken + 1, left)
    else (significand, 0, ds.length + 1)

/-- Scales a double by a power of ten. An exponent beyond the table of powers is worked off in
steps of `10 ^ 308`; a value that has become zero stays zero. -/
def scale : (fuel : Nat) → Double → Int → Option Double
  | 0, _, _ => some Double.zero
  | fuel + 1, x, e =>
    if e.natAbs ≤ 308 then
      if 0 ≤ e then x.mul? (Double.powerOfTen e.natAbs) else x.div? (Double.powerOfTen e.natAbs)
    else if x.isZero then some x
    else if 0 ≤ e then none
    else match x.div? (Double.powerOfTen 308) with
      | some y => scale fuel y (e + 308)
      | none => none

/-- The significand and the power of ten of a literal. -/
def parts (l : Literal) : Nat × Int :=
  let (s, _, dropped) := gather 0 l.whole
  let (s, taken, _) := gather s (l.fraction.getD [])
  (s, (dropped : Int) - taken + l.exponent.getD 0)

/-- The double of a literal; nothing when it is out of range. -/
def double? (l : Literal) : Option Double :=
  let (s, e) := l.parts
  (scale 4 (Double.ofInt s) e).map fun x => if l.negative then x.neg else x

/-- The number of a literal; nothing when it is out of range. -/
def value? (l : Literal) : Option Number :=
  let (s, _, dropped) := gather 0 l.whole
  if l.fraction.isNone && l.exponent.isNone && dropped == 0 && !(l.negative && s == 0) then
    if h : l.negative = false ∧ Number.Fits s then some (.integer s h.2)
    else if h : Number.Fits (-s) then some (.integer (-s) h)
    else l.double?.map .double
  else l.double?.map .double

end Literal
end EventDispatch
