/-!
Likeness of texts.

Purpose: how alike two texts are, by the measure of Jaro. A character of one text has a partner in
the other when the same character stands close to the same place and is not taken yet; partners in
another order count half. The measure is the mean of three parts: the paired part of either text,
and the part of the pairs that are in order.

Main exports: `Text.paired`, `Text.likeness`, `Text.closest?`.
-/

namespace EventDispatch.Text

/-- Takes the first equal character from the places `low ≤ j < high` of a text in which taken places
are empty; the places themselves stay. -/
def takeFrom (c : Char) (low high : Nat) : (place : Nat) → List (Option Char) →
    Option (List (Option Char))
  | _, [] => none
  | place, slot :: rest =>
    if low ≤ place ∧ place < high ∧ slot = some c then some (none :: rest)
    else (takeFrom c low high (place + 1) rest).map (slot :: ·)

/-- The characters of a text that find partners in another one no further away than `reach`, and
what is left of the other one. -/
def paired (reach : Nat) : (place : Nat) → List Char → List (Option Char) →
    List Char × List (Option Char)
  | _, [], slots => ([], slots)
  | place, c :: cs, slots =>
    match takeFrom c (place - reach) (place + reach + 1) 0 slots with
    | some left =>
      let (found, left) := paired reach (place + 1) cs left
      (c :: found, left)
    | none => paired reach (place + 1) cs slots

/-- The characters of a text whose places are taken. -/
def taken : List Char → List (Option Char) → List Char
  | c :: cs, none :: slots => c :: taken cs slots
  | _ :: cs, some _ :: slots => taken cs slots
  | _, _ => []

/-- The likeness of two texts as a fraction: the numerator and the denominator. -/
def likeness (a b : List Char) : Nat × Nat :=
  let (m, n) := (a.length, b.length)
  let reach := max m n / 2 - 1
  let (found, slots) := paired reach 0 a (b.map some)
  let pairs := found.length
  let moved := ((found.zip (taken b slots)).filter fun (x, y) => x ≠ y).length / 2
  if m = 0 ∧ n = 0 then (1, 1)
  else if pairs = 0 then (0, 1)
  else (pairs * pairs * n + pairs * pairs * m + (pairs - moved) * m * n, 3 * m * n * pairs)

/-- The text most like a given one, the last of several, if any is more than seven tenths alike. -/
def closest? (a : String) (known : List String) : Option String :=
  let step (best : Option (String × Nat × Nat)) (b : String) : Option (String × Nat × Nat) :=
    let (p, q) := likeness a.toList b.toList
    if 10 * p ≤ 7 * q then best
    else match best with
      | some (c, r, s) => if r * q ≤ p * s then some (b, p, q) else some (c, r, s)
      | none => some (b, p, q)
  (known.foldl step none).map Prod.fst

end EventDispatch.Text
