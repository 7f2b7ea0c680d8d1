import EventDispatch.Proofs.Json.Spacing
import Mathlib.Algebra.Order.Field.Power
import Mathlib.Tactic.Positivity
/-!
The decimal of a double.

Purpose: the decimal that is found for a magnitude rounds to this magnitude, whichever grid it was
found on.

Main exports: `Decimal.value`, `Double.Interval.owns_search`, `Double.owns_decimal`.
-/

namespace EventDispatch

namespace Decimal

/-- The number that a decimal stands for. -/
def value (d : Decimal) : ℚ := d.digits * (10 : ℚ) ^ d.scale

/-- The same number in quarters of `2 ^ -1074`. -/
def quarters (d : Decimal) : ℚ := d.value * 2 ^ 1076

/-- Zeros that are dropped go into the scale. -/
theorem value_dropZeros (fuel : Nat) (d : Decimal) : (d.dropZeros fuel).value = d.value := by
  induction fuel generalizing d with
  | zero => rfl
  | succ fuel inductionHypothesis =>
      unfold dropZeros
      split
      · rename_i ends
        have digits : d.digits = d.digits / 10 * 10 := by omega
        rw [inductionHypothesis]
        unfold value
        conv_rhs => rw [digits]
        push_cast
        rw [zpow_add₀ (by norm_num), zpow_one]
        ring
      · rfl

end Decimal

namespace Double

/-- The unit of a grid is a power of ten in quarters of `2 ^ -1074`. -/
theorem gridUnit_eq (scale : Int) :
    0 < (gridUnit scale).2 ∧
      ((gridUnit scale).1 : ℚ) / (gridUnit scale).2 = (10 : ℚ) ^ scale * 2 ^ 1076 := by
  unfold gridUnit
  split
  · rename_i nonnegative
    refine ⟨Nat.one_pos, ?_⟩
    lift scale to ℕ using nonnegative
    simp only [Int.toNat_natCast, Nat.cast_mul, Nat.cast_pow, Nat.cast_ofNat, Nat.cast_one,
      div_one, zpow_natCast]
  · rename_i negative
    refine ⟨by positivity, ?_⟩
    obtain ⟨n, rfl⟩ : ∃ n : ℕ, scale = -n := ⟨scale.natAbs, by omega⟩
    simp only [neg_neg, Int.toNat_natCast, Nat.cast_pow, Nat.cast_ofNat, zpow_neg, zpow_natCast]
    rw [div_eq_mul_inv, mul_comm]

/-- In quarters of a power of two a power of ten has an exact expansion. -/
private theorem exact_expansion (n : Nat) : (5 : ℚ) ^ n * (10 : ℚ) ^ (-(n : Int)) * 2 ^ n = 1 := by
  have ten : (5 : ℚ) * 2 = 10 := by norm_num
  rw [mul_right_comm, ← mul_pow, ten, zpow_neg, zpow_natCast]
  exact mul_inv_cancel₀ (by positivity)

namespace Interval

variable {i : Interval}

/-- A neighbour on a grid is found inside the interval. -/
theorem contains_neighbour {scale : Int} {d : Decimal} (found : i.neighbour? scale = some d) :
    d.scale = scale ∧
      i.contains (d.digits * (gridUnit scale).1) (gridUnit scale).2 = true := by
  simp only [neighbour?] at found
  split at found
  · rename_i below above
    rw [Bool.and_eq_true] at below
    cases found
    split
    · exact ⟨rfl, below.1⟩
    · exact ⟨rfl, above⟩
  · rename_i below _
    rw [Bool.and_eq_true] at below
    cases found
    exact ⟨rfl, below.1⟩
  · rename_i above
    cases found
    exact ⟨rfl, above⟩
  · exact absurd found (by simp)

theorem owns_neighbour {scale : Int} {d : Decimal} (found : i.neighbour? scale = some d) :
    i.Owns d.quarters := by
  obtain ⟨scaleEq, contains⟩ := contains_neighbour found
  obtain ⟨positive, unit⟩ := gridUnit_eq scale
  have owns := owns_of_contains positive contains
  have quarters : d.quarters = ((d.digits * (gridUnit scale).1 : ℕ) : ℚ) / (gridUnit scale).2 := by
    rw [Nat.cast_mul, mul_div_assoc, unit, Decimal.quarters, Decimal.value, scaleEq, mul_assoc]
  rw [quarters]
  exact owns

/-- Whatever the search ends with rounds to the magnitude: a neighbour on a grid, or the exact
expansion. -/
theorem owns_search (inside : i.low < i.value ∧ i.value < i.high) (leading : Int)
    (fuel digits : Nat) : i.Owns (i.search leading fuel digits).quarters := by
  induction fuel generalizing digits with
  | zero =>
      have exact : (i.search leading 0 digits).quarters = i.value := by
        have unit := exact_expansion 1076
        simp only [Nat.cast_ofNat] at unit
        simp only [search, Decimal.quarters, Decimal.value, Nat.cast_mul, Nat.cast_pow,
          Nat.cast_ofNat]
        rw [mul_assoc, mul_assoc, ← mul_assoc ((5 : ℚ) ^ 1076), unit, mul_one]
      rw [exact]
      unfold Owns
      have below : (i.low : ℚ) < i.value := by exact_mod_cast inside.1
      have above : (i.value : ℚ) < i.high := by exact_mod_cast inside.2
      split
      · exact ⟨below.le, above.le⟩
      · exact ⟨below, above⟩
  | succ fuel inductionHypothesis =>
      unfold search
      split
      · rename_i d found
        exact owns_neighbour found
      · exact inductionHypothesis (digits + 1)

end Interval

/-- The decimal of a magnitude rounds to it. -/
theorem owns_decimal {x : Double} (nonzero : x.rank ≠ 0) :
    x.interval.Owns x.decimal.quarters := by
  unfold decimal Decimal.quarters
  rw [Decimal.value_dropZeros]
  exact Interval.owns_search (low_lt_value nonzero) _ _ _

end Double
end EventDispatch
