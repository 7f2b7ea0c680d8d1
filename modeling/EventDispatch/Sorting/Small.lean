/-!
Sorting few items.

Purpose: up to twenty items are sorted by insertion. Up to thirty-two are sorted in two halves, each
from a start that a fixed sequence of comparisons puts in order, and the halves are merged from both
ends at once. The two passes of that merge meet if the comparison is an order; where they do not,
the sort crashes, which is `none`.

Main exports: `Sorting.insertion`, `Sorting.mergeHalves`, `Sorting.small`.
-/

namespace EventDispatch.Sorting

variable {α : Type} (less : α → α → Bool)

/-- Puts an item behind a sorted run that is given from its end: it passes the items that it
precedes. -/
def insertFromEnd (x : α) : List α → List α
  | [] => [x]
  | y :: ys => if less x y then y :: insertFromEnd x ys else x :: y :: ys

/-- Inserts items into a sorted run, one after another. -/
def insertAll (run items : List α) : List α :=
  (items.foldl (fun run x => insertFromEnd less x run) run.reverse).reverse

/-- Sorts by insertion; items that tie keep their order. -/
def insertion (items : List α) : List α := insertAll less [] items

/-- Four items in order, by five comparisons. -/
def sortFour (a b c d : α) : List α :=
  let (a, b) := if less b a then (b, a) else (a, b)
  let (c, d) := if less d c then (d, c) else (c, d)
  let first := if less c a then c else a
  let last := if less d b then b else d
  let left := if less c a then a else if less d b then c else b
  let right := if less d b then d else if less c a then b else c
  if less right left then [first, right, left, last] else [first, left, right, last]

/-- Takes a number of items from the fronts of two runs, each time from the second run where the
test of the fronts asks for it. Gives the items taken and what stays of the runs. -/
def takeFronts (fromSecond : α → α → Bool) : Nat → List α → List α → List α × List α × List α
  | n + 1, x :: xs, y :: ys =>
    if fromSecond x y then
      let (taken, restX, restY) := takeFronts fromSecond n (x :: xs) ys
      (y :: taken, restX, restY)
    else
      let (taken, restX, restY) := takeFronts fromSecond n xs (y :: ys)
      (x :: taken, restX, restY)
  | _, xs, ys => ([], xs, ys)

/-- Merges the sorted halves of a list from both ends, with half of the steps from each. An item in
the middle of an odd number is left to the end. The passes have to meet in both halves. -/
def mergeHalves (items : List α) : Option (List α) :=
  let half := items.length / 2
  let odd := items.length % 2
  let left := items.take half
  let right := items.drop half
  let (front, restL, restR) := takeFronts (fun x y => less y x) half left right
  let (back, restL', _) := takeFronts (fun x y => !less y x) half left.reverse right.reverse
  if restL.length + restL'.length = half then
    some (front ++ restR.take odd ++ back.reverse)
  else if odd = 1 ∧ restL.length + restL'.length = half + 1 then
    some (front ++ restL.take 1 ++ back.reverse)
  else none

/-- The first eight, four or single item in order. -/
def start (size : Nat) (items : List α) : Option (List α) :=
  match size, items with
  | 8, a :: b :: c :: d :: e :: f :: g :: h :: _ =>
    mergeHalves less (sortFour less a b c d ++ sortFour less e f g h)
  | 4, a :: b :: c :: d :: _ => some (sortFour less a b c d)
  | size, items => some (items.take size)

/-- One half in order: what stands behind the start is inserted. -/
def sortHalf (size : Nat) (items : List α) : Option (List α) :=
  (start less size items).map fun run => insertAll less run (items.drop size)

/-- Sorts up to thirty-two items. -/
def small (items : List α) : Option (List α) :=
  if items.length < 2 then some items
  else do
    let size := if 16 ≤ items.length then 8 else if 8 ≤ items.length then 4 else 1
    let left ← sortHalf less size (items.take (items.length / 2))
    let right ← sortHalf less size (items.drop (items.length / 2))
    mergeHalves less (left ++ right)

end EventDispatch.Sorting
