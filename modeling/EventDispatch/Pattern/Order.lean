import EventDispatch.Pattern.Basic
import EventDispatch.Sorting.Runs
/-!
The order of patterns.

Purpose: patterns are ordered by kind (null, truth values, numbers, strings, sequences, mappings)
and within a kind by value; two sequences, and two mappings, by their keys. Sorting puts the
elements of a sequence into this order and keeps the given order among equals. Doubles between great
integers keep this from being an order throughout, and sorting many such numbers may crash.

Main exports: `Pattern.order`, `Pattern.arrangement`, `Pattern.inOrder`, `Pattern.sorted`.
-/

namespace EventDispatch.Pattern

/-- The place of a pattern's kind among the kinds. -/
def rank : Pattern → Nat
  | .null => 0
  | .bool _ => 1
  | .number _ => 2
  | .string _ => 3
  | .array _ => 4
  | .object _ => 5

/-- The order of two patterns. -/
def order (a b : Pattern) : Ordering :=
  match a, b with
  | .null, .null => .eq
  | .bool x, .bool y => compare x y
  | .number x, .number y => x.order y
  | .string x, .string y => compare x y
  | .array x, .array y => compare (key (.array x)) (key (.array y))
  | .object x, .object y => compare (key (.object x)) (key (.object y))
  | a, b => compare (rank a) (rank b)

/-- One pattern comes before another. -/
def precedes (a b : Pattern) : Bool := order a b == .lt

/-- The positions of elements, in the order of the elements. -/
def arrangement (items : List Pattern) : Option (List Nat) :=
  Sorting.sort (fun i j => precedes (items.getD i .null) (items.getD j .null))
    (List.range items.length)

/-- What belongs to elements, position by position, in the order of the elements. -/
def inOrder {α : Type} (items : List Pattern) (xs : List α) : Option (List α) :=
  (arrangement items).map fun positions => positions.filterMap (xs[·]?)

/-- The elements in the order of patterns. -/
def sorted (items : List Pattern) : Option (List Pattern) := inOrder items items

end EventDispatch.Pattern
