import EventDispatch.Arithmetic
import EventDispatch.Sorting.Small
/-!
Sorting many items.

Purpose: a list is cut into runs. A run is sorted as it stands, or is sorted on the spot if there
are few items, or waits to be sorted together with its neighbours. Neighbours are merged in the
order of a balanced tree over the positions of the runs. Items that wait are parted by a pivot,
again and again, until few of them are left. It sorts by any order that is total up to ties, and
keeps the items that tie in their order; any other comparison may make it crash, which is `none`.

Main exports: `Sorting.mergeRuns`, `Sorting.partition`, `Sorting.many`, `Sorting.coherent`,
`Sorting.sort`.
-/

namespace EventDispatch.Sorting

open scoped Arithmetic

variable {α : Type} (less : α → α → Bool)

/-! ### Runs -/

/-- Items that stand side by side. -/
structure Run (α : Type) where
  items : List α
  /-- They are in order. -/
  sorted : Bool

/-- The items of a run in order. -/
def Run.inOrder (sort : List α → Option (List α)) (run : Run α) : Option (List α) :=
  if run.sorted then some run.items else sort run.items

/-- Merges two sorted runs, from the front if the first one is not the longer one and else from the
back. -/
def mergeRuns (left right : List α) : List α :=
  if left.length ≤ right.length then left.merge right fun x y => !less y x
  else (left.reverse.merge right.reverse fun x y => less y x).reverse

/-- How many items at the front follow one another. -/
def runLength (follows : α → α → Bool) : List α → Nat
  | [] => 0
  | [_] => 1
  | x :: y :: rest => if follows x y then runLength follows (y :: rest) + 1 else 1

/-- Whether the first two items stand in the wrong order. -/
def descends : List α → Bool
  | x :: y :: _ => less y x
  | _ => false

/-- The run at the front, if it has a number of items: it rises, or it falls and is turned round. -/
def standingRun? (good : Nat) (items : List α) : Option (Run α × List α) :=
  let falls := descends less items
  let length := runLength (fun x y => if falls then less y x else !less y x) items
  if good ≤ length then
    let run := items.take length
    some (⟨if falls then run.reverse else run, true⟩, items.drop length)
  else none

/-- Cuts a run off: one that stands there, or else some items, which are sorted now or later. -/
def nextRun (now : Bool) (good : Nat) (items : List α) : Option (Run α × List α) :=
  match standingRun? less good items with
  | some cut => some cut
  | none =>
    if now then (small less (items.take 32)).map fun run => (⟨run, true⟩, items.drop 32)
    else some (⟨items.take good, false⟩, items.drop good)

/-- The depth of the node between two runs in the tree: how many leading bits of 64 the middles of
both have in common, on a scale on which the whole list has `2 ^ 62`. -/
def nodeDepth (scale left middle right : Nat) : Nat :=
  let apart := (scale * (left + middle)) ^^^ (scale * (middle + right))
  if apart = 0 then 64 else 63 - apart.log2

/-- Joins two runs. They are merged, once both are sorted, if one of them is sorted or both exceed
the room for sorting; else they wait. -/
def joinRuns (room : Nat) (sort : List α → Option (List α)) (left right : Run α) :
    Option (Run α) :=
  if room < left.items.length + right.items.length || left.sorted || right.sorted then do
    return ⟨mergeRuns less (← left.inOrder sort) (← right.inOrder sort), true⟩
  else some ⟨left.items ++ right.items, false⟩

/-- Joins a run with the ones before it whose nodes lie as deep as a depth, or deeper. -/
def collapse (room : Nat) (sort : List α → Option (List α)) (depth : Nat) :
    List (Run α × Nat) → Run α → Option (List (Run α × Nat) × Run α)
  | (left, d) :: stack, run =>
    if depth ≤ d then do collapse room sort depth stack (← joinRuns less room sort left run)
    else some ((left, d) :: stack, run)
  | [], run => some ([], run)

/-- Cuts runs off and joins them, from a stack of runs with the depths of the nodes behind them and
the run that was cut off last. The first number bounds how many runs are cut off. -/
def joinAll (now : Bool) (good room scale : Nat) (sort : List α → Option (List α)) :
    Nat → (scanned : Nat) → List (Run α × Nat) → Run α → List α → Option (Run α)
  | fuel + 1, scanned, stack, last, x :: rest => do
    let (next, later) ← nextRun less now good (x :: rest)
    let reach := scanned + next.items.length
    let depth := nodeDepth scale (scanned - last.items.length) scanned reach
    let (stack, run) ← collapse less room sort depth stack last
    joinAll now good room scale sort fuel reach ((run, depth) :: stack) next later
  | _, _, stack, last, _ => (collapse less room sort 0 stack last).map Prod.snd

/-- How long a run that stands there has to be. -/
def goodLength (length : Nat) : Nat :=
  if length ≤ 4096 then min (length - length / 2) 64
  else
    let shift := (1 + length.log2) / 2
    (2 ^ shift + length / 2 ^ shift) / 2

/-- Sorts by cutting off runs and joining them. -/
def byRuns (now : Bool) (room : Nat) (sort : List α → Option (List α)) (items : List α) :
    Option (List α) := do
  let good := goodLength items.length
  let scale := (2 ^ (62 : Nat) + items.length - 1) / items.length
  let (first, rest) ← nextRun less now good items
  let run ← joinAll less now good room scale sort items.length first.items.length [] first rest
  run.inOrder sort

/-! ### Parting by a pivot -/

/-- Of three places the one whose item stands between the others. -/
def median (before : Nat → Nat → Bool) (a b c : Nat) : Nat :=
  if before a b == before a c then if before b c != before a b then c else b else a

/-- The median of three stretches of a length, each by its own medians if it is long. -/
def medianOfStretches (before : Nat → Nat → Bool) : Nat → Nat → Nat → Nat → Nat → Nat
  | fuel + 1, length, a, b, c =>
    if 8 ≤ length then
      let part := length / 8
      let inner a := medianOfStretches before fuel part a (a + part * 4) (a + part * 7)
      median before (inner a) (inner b) (inner c)
    else median before a b c
  | 0, _, a, b, c => median before a b c

/-- The place of the pivot. -/
def pivotPlace (items : List α) : Nat :=
  let before i j := match items[i]?, items[j]? with
    | some x, some y => less x y
    | _, _ => false
  let part := items.length / 8
  if items.length < 64 then median before 0 (part * 4) (part * 7)
  else medianOfStretches before items.length part 0 (part * 4) (part * 7)

/-- Parts items in two, in the order in which they stand: those that pass a test and the others. The
item at a place goes where it is told, without the test. -/
def partition (test : α → Bool) (place : Nat) (passes : Bool) (items : List α) :
    List α × List α :=
  let front := items.take place
  let own := (items.drop place).take 1
  let behind := items.drop (place + 1)
  (front.filter test ++ (if passes then own else []) ++ behind.filter test,
    front.filter (!test ·) ++ (if passes then [] else own) ++ behind.filter (!test ·))

/-- Sorts by parting, a limited number of times before it turns to runs. If nothing precedes the
pivot, or it ties with the pivot above which all items are, the items that tie with it are done. -/
def byPivots (room : Nat) : Nat → (above : Option α) → List α → Option (List α)
  | limit, above, items =>
    if items.length ≤ 32 then small less items
    else match limit, items[pivotPlace less items]? with
      | limit + 1, some pivot =>
        let place := pivotPlace less items
        let (lower, upper) := partition (less · pivot) place false items
        if above.any (!less · pivot) || lower.isEmpty then do
          let (tied, upper) := partition (!less pivot ·) place true items
          return tied ++ (← byPivots room limit none upper)
        else do
          let upper ← byPivots room limit (some pivot) upper
          return (← byPivots room limit above lower) ++ upper
      | _, _ => byRuns less true room some items

/-! ### Any number of items -/

/-- Sorts more than twenty items. -/
def many (items : List α) : Option (List α) :=
  let length := items.length
  let room := max 512 (max (length - length / 2) (min length 1000000))
  let rounds (items : List α) := 2 * (items.length ||| 1).log2
  byRuns less (length ≤ 64) room (fun items => byPivots less room (rounds items) none items) items

/-- Whether a comparison is an order of items, total up to ties: one item precedes another one if
fewer items precede it. -/
def coherent (items : List α) : Bool :=
  let ranked := items.map fun x => (x, items.countP (less · x))
  ranked.all fun (x, m) => ranked.all fun (y, n) => less x y == decide (m < n)

/-- Sorts any number of items. Where the comparison is an order, there is one way to put them in
order with those that tie as they stood, and every way of sorting comes to it. -/
def sort (items : List α) : Option (List α) :=
  if items.length ≤ 20 || coherent less items then some (insertion less items)
  else many less items

end EventDispatch.Sorting
