/-!
Sets of characters given by ranges.

Main exports: `Text.inRanges`.
-/

namespace EventDispatch.Text

/-- Whether a code point lies in one of some closed ranges, which ascend and do not overlap. The
search halves the table in each step. -/
def searchRanges (table : Array (Nat × Nat)) (n : Nat) : (fuel low high : Nat) → Bool
  | 0, _, _ => false
  | fuel + 1, low, high =>
    if high ≤ low then false
    else
      let middle := (low + high) / 2
      match table[middle]? with
      | none => false
      | some (first, last) =>
        if n < first then searchRanges table n fuel low middle
        else if last < n then searchRanges table n fuel (middle + 1) high
        else true

/-- Whether a character lies in one of some closed ranges. -/
def inRanges (table : Array (Nat × Nat)) (c : Char) : Bool :=
  searchRanges table c.toNat (table.size + 1) 0 table.size

end EventDispatch.Text
