import EventDispatch.Json.Number
import Mathlib.Data.Rat.Cast.Order
import Mathlib.Tactic.FieldSimp
import Mathlib.Tactic.Linarith
import Mathlib.Tactic.Ring
/-!
The spacing of doubles.

Purpose: the reals that round to a magnitude form an interval, and the intervals of neighbouring
magnitudes share an end. One of the two magnitudes has an even significand, and the end belongs to
this one only. So no number rounds to two magnitudes.

Main exports: `Double.next_cases`, `Double.interval_next`, `Double.Interval.Owns`,
`Double.rank_eq_of_owns`.
-/

namespace EventDispatch.Double

theorem subnormal {x : Double} (small : x.rank < rankStep) :
    x.exponent = 0 ∧ x.significand = x.rank := by
  simp [exponent, significand, small]

theorem normal {x : Double} (large : rankStep ≤ x.rank) :
    x.exponent = x.rank / rankStep - 1 ∧ x.significand = rankStep + x.rank % rankStep := by
  simp [exponent, significand, Nat.not_lt.mpr large]

/-- The number of ranks in a binary exponent, for linear arithmetic. -/
private theorem rankStep_eq : rankStep = 4503599627370496 := by decide

/-- The next magnitude has the next significand under the same exponent, or the least one under the
next exponent. -/
theorem next_cases {x y : Double} (next : y.rank = x.rank + 1) :
    (y.exponent = x.exponent ∧ y.significand = x.significand + 1 ∧
      (y.significand = rankStep → y.exponent = 0)) ∨
    (y.exponent = x.exponent + 1 ∧ y.significand = rankStep ∧
      x.significand + 1 = 2 * rankStep) := by
  rcases Nat.lt_or_ge x.rank rankStep with smallX | largeX
  · obtain ⟨exponentX, significandX⟩ := subnormal smallX
    rcases Nat.lt_or_ge y.rank rankStep with smallY | largeY
    · obtain ⟨exponentY, significandY⟩ := subnormal smallY
      omega
    · obtain ⟨exponentY, significandY⟩ := normal largeY
      rw [rankStep_eq] at *
      omega
  · obtain ⟨exponentX, significandX⟩ := normal largeX
    obtain ⟨exponentY, significandY⟩ := normal (x := y) (by omega)
    rw [rankStep_eq] at *
    omega

/-- A significand is even exactly where its rank is. -/
theorem significand_mod_two (x : Double) : x.significand % 2 = x.rank % 2 := by
  rcases Nat.lt_or_ge x.rank rankStep with small | large
  · rw [(subnormal small).2]
  · rw [(normal large).2, rankStep_eq]
    omega

theorem significand_pos {x : Double} (nonzero : x.rank ≠ 0) : 0 < x.significand := by
  rcases Nat.lt_or_ge x.rank rankStep with small | large
  · rw [(subnormal small).2]
    exact Nat.pos_of_ne_zero nonzero
  · rw [(normal large).2, rankStep_eq]
    omega

theorem units_next {x y : Double} (next : y.rank = x.rank + 1) :
    y.units = x.units + 2 ^ x.exponent := by
  unfold units
  rcases next_cases next with ⟨exponent, significand, _⟩ | ⟨exponent, significand, full⟩
  · rw [exponent, significand, Nat.add_mul, Nat.one_mul]
  · calc y.significand * 2 ^ y.exponent = (x.significand + 1) * 2 ^ x.exponent := by
          rw [exponent, significand, full, Nat.pow_succ]
          ring
      _ = x.significand * 2 ^ x.exponent + 2 ^ x.exponent := by
          rw [Nat.add_mul, Nat.one_mul]

/-! ### Intervals -/

/-- An interval ends where that of the next magnitude begins. -/
theorem interval_next {x y : Double} (next : y.rank = x.rank + 1) :
    y.interval.low = x.interval.high := by
  have units := units_next next
  have positive : 0 < 2 ^ x.exponent := Nat.two_pow_pos _
  simp only [interval]
  rcases next_cases next with ⟨exponent, significand, early⟩ | ⟨exponent, significand, full⟩
  · have inside : ¬ (y.significand = rankStep ∧ 0 < y.exponent) := by
      rintro ⟨least, above⟩
      exact absurd (early least) (Nat.ne_of_gt above)
    rw [if_neg inside, exponent]
    omega
  · have boundary : y.significand = rankStep ∧ 0 < y.exponent := by omega
    rw [if_pos boundary, exponent, Nat.pow_succ]
    omega

/-- Of two neighbouring intervals exactly one has its ends. -/
theorem closed_next {x y : Double} (next : y.rank = x.rank + 1) :
    y.interval.closed = !x.interval.closed := by
  have parityX := x.significand_mod_two
  have parityY := y.significand_mod_two
  simp only [interval]
  rw [← decide_not, decide_eq_decide]
  omega

/-- A magnitude lies inside its interval. -/
theorem low_lt_value {x : Double} (nonzero : x.rank ≠ 0) :
    x.interval.low < x.interval.value ∧ x.interval.value < x.interval.high := by
  have positive : 0 < 2 ^ x.exponent := Nat.two_pow_pos _
  have units : 2 ^ x.exponent ≤ x.units := Nat.le_mul_of_pos_left _ (significand_pos nonzero)
  simp only [interval]
  constructor
  · split <;> omega
  · omega

/-- The intervals of greater magnitudes lie above. -/
theorem high_le_low {x y : Double} (below : x.rank < y.rank) :
    x.interval.high ≤ y.interval.low := by
  obtain ⟨distance, rank⟩ := Nat.exists_eq_add_of_lt below
  induction distance generalizing y with
  | zero => rw [interval_next rank]
  | succ distance inductionHypothesis =>
      have inRange : x.rank + distance + 1 < rankLimit := by
        have finite := y.finite
        omega
      let before : Double := ⟨false, x.rank + distance + 1, inRange⟩
      have beforeRank : before.rank = x.rank + distance + 1 := rfl
      calc x.interval.high ≤ before.interval.low :=
            inductionHypothesis (by omega) beforeRank
        _ ≤ before.interval.high := by
            have inside := low_lt_value (x := before) (by omega)
            omega
        _ = y.interval.low := (interval_next (by omega)).symm

/-- Intervals that are no neighbours do not touch. -/
theorem high_lt_low {x y : Double} (apart : x.rank + 1 < y.rank) :
    x.interval.high < y.interval.low := by
  let after : Double := ⟨false, x.rank + 1, Nat.lt_trans apart y.finite⟩
  have inside := low_lt_value (x := after) (Nat.succ_ne_zero _)
  calc x.interval.high = after.interval.low := (interval_next rfl).symm
    _ < after.interval.high := by omega
    _ ≤ y.interval.low := high_le_low apart

namespace Interval

/-- Whether a rational number, in quarters of `2 ^ -1074`, rounds to the interval's magnitude. -/
def Owns (i : Interval) (q : ℚ) : Prop :=
  if i.closed then i.low ≤ q ∧ q ≤ i.high else i.low < q ∧ q < i.high

theorem owns_of_contains {i : Interval} {num den : Nat} (positive : 0 < den)
    (contains : i.contains num den = true) : i.Owns (num / den) := by
  have denominator : (0 : ℚ) < den := by exact_mod_cast positive
  unfold Interval.contains at contains
  unfold Owns
  split at contains
  · simp only [decide_eq_true_eq] at contains
    rw [if_pos (by assumption), le_div_iff₀ denominator, div_le_iff₀ denominator]
    exact_mod_cast contains
  · simp only [decide_eq_true_eq] at contains
    rw [if_neg (by assumption), lt_div_iff₀ denominator, div_lt_iff₀ denominator]
    exact_mod_cast contains

/-- What an interval owns lies between its ends, and is an end only if the interval has its ends. -/
theorem Owns.bounds {i : Interval} {q : ℚ} (owns : i.Owns q) :
    (i.low : ℚ) ≤ q ∧ q ≤ i.high ∧ (i.closed = false → (i.low : ℚ) < q ∧ q < i.high) := by
  unfold Owns at owns
  split at owns
  · rename_i closed
    exact ⟨owns.1, owns.2, fun opened => absurd closed (by simp [opened])⟩
  · exact ⟨owns.1.le, owns.2.le, fun _ => owns⟩

end Interval

/-- Of two magnitudes the smaller one does not own what the greater one owns. -/
private theorem not_owns_of_lt {x y : Double} (below : x.rank < y.rank) {q : ℚ}
    (ownsX : x.interval.Owns q) (ownsY : y.interval.Owns q) : False := by
  obtain ⟨_, aboveX, strictX⟩ := ownsX.bounds
  obtain ⟨belowY, _, strictY⟩ := ownsY.bounds
  have order : (x.interval.high : ℚ) ≤ y.interval.low := by exact_mod_cast high_le_low below
  have touch : (x.interval.high : ℚ) = y.interval.low := le_antisymm order (belowY.trans aboveX)
  -- Only neighbours touch, and only one of them has the common end.
  rcases Nat.eq_or_lt_of_le (Nat.succ_le_of_lt below) with next | apart
  · have one := closed_next next.symm
    cases closed : x.interval.closed with
    | false => linarith [(strictX closed).2]
    | true => linarith [(strictY (by rw [one, closed]; rfl)).1]
  · have gap : (x.interval.high : ℚ) < y.interval.low := by exact_mod_cast high_lt_low apart
    linarith

/-- No number rounds to two magnitudes. -/
theorem rank_eq_of_owns {x y : Double} {q : ℚ} (ownsX : x.interval.Owns q)
    (ownsY : y.interval.Owns q) : x.rank = y.rank := by
  rcases Nat.lt_trichotomy x.rank y.rank with below | same | above
  · exact (not_owns_of_lt below ownsX ownsY).elim
  · exact same
  · exact (not_owns_of_lt above ownsY ownsX).elim

end EventDispatch.Double
