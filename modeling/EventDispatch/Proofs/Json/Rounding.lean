import EventDispatch.Json.Number
import Mathlib.Algebra.Group.Int.Defs
import Mathlib.Algebra.Group.Nat.Defs
/-!
Integers as doubles.

Purpose: rounding integers to doubles keeps their order, but not strictly: far from zero several
integers round to one double. Integers below `2 ^ 53` in magnitude are doubles themselves, and no
other integer rounds to them.

Main exports: `Double.place_injective`, `Double.place_ofInt_le`, `Double.place_ofInt_lt`,
`Double.ofInt_injective_of_small`, `Double.eq_of_sameValue_ofInt`.
-/

namespace EventDispatch.Double

/-- The place in the total order tells the double. -/
theorem place_injective : Function.Injective place := by
  intro x y same
  obtain ⟨negative, rank, _⟩ := x
  obtain ⟨negative', rank', _⟩ := y
  unfold place at same
  simp only at same
  have parts : negative = negative' ∧ rank = rank' := by
    cases negative <;> cases negative' <;>
      simp only [if_true, if_false, Bool.false_eq_true, reduceCtorEq, true_and,
        false_and] at same ⊢ <;> omega
  obtain ⟨rfl, rfl⟩ := parts
  rfl

/-! ### Quotients -/

/-- A rounded quotient is the quotient or its successor. -/
theorem roundQuotient_bounds (num den : Nat) :
    num / den ≤ roundQuotient num den ∧ roundQuotient num den ≤ num / den + 1 := by
  unfold roundQuotient
  dsimp only
  split
  · omega
  · split <;> omega

theorem roundQuotient_mono {m n : Nat} (den : Nat) (le : m ≤ n) :
    roundQuotient m den ≤ roundQuotient n den := by
  rcases Nat.lt_or_eq_of_le (Nat.div_le_div_right (c := den) le) with before | same
  · have upper := (roundQuotient_bounds m den).2
    have lower := (roundQuotient_bounds n den).1
    omega
  · -- Under one quotient the greater number has the greater remainder.
    have remainders : m % den ≤ n % den := by
      have splitM := Nat.div_add_mod m den
      have splitN := Nat.div_add_mod n den
      rw [same] at splitM
      omega
    unfold roundQuotient
    rw [same]
    dsimp only
    split
    · split
      · omega
      · split <;> omega
    · split
      · refine Nat.le_of_eq ?_
        rw [if_neg (by omega), if_pos (by omega)]
      · split
        · omega
        · split <;> omega

/-- An exact quotient stays. -/
theorem roundQuotient_mul (q : Nat) {den : Nat} (positive : 0 < den) :
    roundQuotient (q * den) den = q := by
  unfold roundQuotient
  rw [Nat.mul_mod_left, Nat.mul_div_cancel _ positive, if_pos (by omega)]

/-! ### Ranks -/

/-- The binary exponent under which a number of units is rounded. -/
def shift (n : Nat) : Nat := n.log2 - 52

theorem nearestRank_one (n : Nat) :
    nearestRank n 1 = shift n * rankStep + roundQuotient n (2 ^ shift n) := by
  unfold nearestRank shift
  dsimp only
  rw [Nat.div_one, Nat.one_mul]

/-- Ranks lie in the range of their exponent, or at the start of the next one. -/
theorem nearestRank_le (n : Nat) : nearestRank n 1 ≤ (shift n + 2) * rankStep := by
  rw [nearestRank_one]
  have rounded := (roundQuotient_bounds n (2 ^ shift n)).2
  have below : n / 2 ^ shift n < 2 * rankStep := by
    rw [Nat.div_lt_iff_lt_mul (Nat.two_pow_pos _)]
    calc n < 2 ^ (n.log2 + 1) := Nat.lt_log2_self
      _ ≤ 2 ^ (53 + shift n) := Nat.pow_le_pow_right (by decide) (by unfold shift; omega)
      _ = 2 * rankStep * 2 ^ shift n := by rw [Nat.pow_add]; rfl
  rw [Nat.add_mul]
  omega

theorem le_nearestRank {n : Nat} (large : 52 ≤ n.log2) :
    (shift n + 1) * rankStep ≤ nearestRank n 1 := by
  rw [nearestRank_one]
  have nonzero : n ≠ 0 := by
    rintro rfl
    simp at large
  have rounded := (roundQuotient_bounds n (2 ^ shift n)).1
  have above : rankStep ≤ n / 2 ^ shift n := by
    rw [Nat.le_div_iff_mul_le (Nat.two_pow_pos _)]
    calc rankStep * 2 ^ shift n = 2 ^ (52 + shift n) := by rw [Nat.pow_add]; rfl
      _ = 2 ^ n.log2 := by congr 1; unfold shift; omega
      _ ≤ n := Nat.log2_self_le nonzero
  rw [Nat.add_mul]
  omega

theorem log2_le_log2 {m n : Nat} (le : m ≤ n) : m.log2 ≤ n.log2 := by
  by_cases zero : m = 0
  · simp [zero]
  · exact (Nat.le_log2 (by omega)).mpr (Nat.le_trans (Nat.log2_self_le zero) le)

/-- Rounding keeps the order. -/
theorem nearestRank_mono {m n : Nat} (le : m ≤ n) : nearestRank m 1 ≤ nearestRank n 1 := by
  have shifts : shift m ≤ shift n := Nat.sub_le_sub_right (log2_le_log2 le) 52
  rcases Nat.lt_or_eq_of_le shifts with lower | same
  · have large : 52 ≤ n.log2 := by
      unfold shift at lower
      omega
    calc nearestRank m 1 ≤ (shift m + 2) * rankStep := nearestRank_le m
      _ ≤ (shift n + 1) * rankStep := Nat.mul_le_mul_right _ (by omega)
      _ ≤ nearestRank n 1 := le_nearestRank large
  · rw [nearestRank_one, nearestRank_one, same]
    exact Nat.add_le_add_left (roundQuotient_mono _ le) _

/-! ### Natural numbers -/

theorem log2_mul_two_pow {n : Nat} (nonzero : n ≠ 0) (k : Nat) :
    (n * 2 ^ k).log2 = n.log2 + k := by
  have positive : 0 < 2 ^ k := Nat.two_pow_pos k
  rw [Nat.log2_eq_iff (Nat.mul_ne_zero nonzero (Nat.ne_of_gt positive))]
  constructor
  · rw [Nat.pow_add]
    exact Nat.mul_le_mul_right _ (Nat.log2_self_le nonzero)
  · rw [Nat.add_right_comm, Nat.pow_add]
    exact (Nat.mul_lt_mul_right positive).mpr Nat.lt_log2_self

/-- The rank that a natural number rounds to. -/
def rankOf (n : Nat) : Nat := nearestRank (n * 2 ^ 1074) 1

theorem shift_units {n : Nat} (nonzero : n ≠ 0) : shift (n * 2 ^ 1074) = n.log2 + 1022 := by
  unfold shift
  rw [log2_mul_two_pow nonzero]
  omega

theorem rankOf_mono {m n : Nat} (le : m ≤ n) : rankOf m ≤ rankOf n :=
  nearestRank_mono (Nat.mul_le_mul_right _ le)

/-- A number below `2 ^ 53` is rounded to itself: its digits fit a significand. -/
theorem rankOf_small {n : Nat} (nonzero : n ≠ 0) (small : n < 2 ^ 53) :
    rankOf n = (n.log2 + 1022) * rankStep + n * 2 ^ (52 - n.log2) := by
  have bits : n.log2 < 53 := (Nat.log2_lt nonzero).mpr small
  have exponents : 52 - n.log2 + (n.log2 + 1022) = 1074 := by omega
  have exact : n * 2 ^ 1074 = n * 2 ^ (52 - n.log2) * 2 ^ (n.log2 + 1022) := by
    rw [Nat.mul_assoc, ← Nat.pow_add, exponents]
  unfold rankOf
  rw [nearestRank_one, shift_units nonzero, exact, roundQuotient_mul _ (Nat.two_pow_pos _)]

theorem rankOf_lower {n : Nat} (nonzero : n ≠ 0) : (n.log2 + 1023) * rankStep ≤ rankOf n := by
  have large : 52 ≤ (n * 2 ^ 1074).log2 := by
    rw [log2_mul_two_pow nonzero]
    omega
  have lower := le_nearestRank large
  rw [shift_units nonzero] at lower
  exact lower

theorem rankOf_zero : rankOf 0 = 0 := by
  unfold rankOf
  rw [Nat.zero_mul]
  decide

theorem rankOf_upper {n : Nat} (nonzero : n ≠ 0) (small : n < 2 ^ 53) :
    rankOf n < (n.log2 + 1024) * rankStep := by
  have bits : n.log2 < 53 := (Nat.log2_lt nonzero).mpr small
  have significand : n * 2 ^ (52 - n.log2) < 2 * rankStep := by
    calc n * 2 ^ (52 - n.log2) < 2 ^ (n.log2 + 1) * 2 ^ (52 - n.log2) :=
          (Nat.mul_lt_mul_right (Nat.two_pow_pos _)).mpr Nat.lt_log2_self
      _ = 2 ^ 53 := by
          rw [← Nat.pow_add]
          congr 1
          omega
      _ = 2 * rankStep := rfl
  rw [rankOf_small nonzero small, Nat.add_mul, Nat.add_mul]
  omega

/-- No greater number rounds to what a number below `2 ^ 53` rounds to. -/
theorem rankOf_lt {m n : Nat} (small : m < 2 ^ 53) (lt : m < n) : rankOf m < rankOf n := by
  have nonzero : n ≠ 0 := by omega
  by_cases zero : m = 0
  · have positive : 0 < (n.log2 + 1023) * rankStep := Nat.mul_pos (by omega) (by decide)
    rw [zero, rankOf_zero]
    exact Nat.lt_of_lt_of_le positive (rankOf_lower nonzero)
  · rcases Nat.lt_or_eq_of_le (log2_le_log2 (Nat.le_of_lt lt)) with lower | same
    · calc rankOf m < (m.log2 + 1024) * rankStep := rankOf_upper zero small
        _ ≤ (n.log2 + 1023) * rankStep := Nat.mul_le_mul_right _ (by omega)
        _ ≤ rankOf n := rankOf_lower nonzero
    · have smallN : n < 2 ^ 53 := by
        rw [← Nat.log2_lt nonzero, ← same, Nat.log2_lt zero]
        exact small
      rw [rankOf_small zero small, rankOf_small nonzero smallN, same]
      exact Nat.add_lt_add_left ((Nat.mul_lt_mul_right (Nat.two_pow_pos _)).mpr lt) _

/-! ### Integers -/

/-- An integer rounds as its magnitude does; beyond the range stands the greatest double. -/
theorem ofInt_eq (i : Int) : (ofInt i).negative = decide (i < 0) ∧
    (ofInt i).rank = min (rankOf i.natAbs) (rankLimit - 1) := by
  have limit : 0 < rankLimit := by decide
  by_cases inRange : rankOf i.natAbs < rankLimit
  · have rounded : round? (decide (i < 0)) i.natAbs 1
        = some ⟨decide (i < 0), rankOf i.natAbs, inRange⟩ := dif_pos inRange
    unfold ofInt
    rw [rounded, Option.getD_some]
    exact ⟨rfl, by dsimp only; omega⟩
  · have beyond : round? (decide (i < 0)) i.natAbs 1 = none := dif_neg inRange
    unfold ofInt
    rw [beyond, Option.getD_none]
    exact ⟨rfl, by dsimp only; omega⟩

theorem place_ofInt (i : Int) : (ofInt i).place
    = if i < 0 then -((min (rankOf i.natAbs) (rankLimit - 1) : Nat) : Int) - 1
      else (min (rankOf i.natAbs) (rankLimit - 1) : Nat) := by
  unfold place
  rw [(ofInt_eq i).1, (ofInt_eq i).2]
  simp only [decide_eq_true_eq]

/-- Rounding integers keeps their order. -/
theorem place_ofInt_le {i j : Int} (le : i ≤ j) : (ofInt i).place ≤ (ofInt j).place := by
  rw [place_ofInt, place_ofInt]
  split
  · split
    · have ranks := rankOf_mono (show j.natAbs ≤ i.natAbs by omega)
      omega
    · omega
  · have ranks := rankOf_mono (show i.natAbs ≤ j.natAbs by omega)
    rw [if_neg (by omega)]
    omega

/-- A number below `2 ^ 53` is far from the end of the range. -/
theorem rankOf_lt_limit {n : Nat} (small : n < 2 ^ 53) : rankOf n < rankLimit - 1 := by
  by_cases zero : n = 0
  · rw [zero, rankOf_zero]
    decide
  · have bits : n.log2 < 53 := (Nat.log2_lt zero).mpr small
    calc rankOf n < (n.log2 + 1024) * rankStep := rankOf_upper zero small
      _ ≤ 1076 * rankStep := Nat.mul_le_mul_right _ (by omega)
      _ ≤ rankLimit - 1 := by decide

/-- Next to an integer below `2 ^ 53` in magnitude, rounding keeps the order strictly. -/
theorem place_ofInt_lt {i j : Int} (lt : i < j)
    (small : i.natAbs < 2 ^ 53 ∨ j.natAbs < 2 ^ 53) : (ofInt i).place < (ofInt j).place := by
  have strict : ∀ {m n : Nat}, m < n → m < 2 ^ 53 →
      min (rankOf m) (rankLimit - 1) < min (rankOf n) (rankLimit - 1) := by
    intro m n less bound
    have ranks := rankOf_lt bound less
    have limit := rankOf_lt_limit bound
    omega
  rw [place_ofInt, place_ofInt]
  split
  · split
    · have ranks := strict (m := j.natAbs) (n := i.natAbs) (by omega) (by omega)
      omega
    · omega
  · have ranks := strict (m := i.natAbs) (n := j.natAbs) (by omega) (by omega)
    rw [if_neg (by omega)]
    omega

/-- An integer below `2 ^ 53` in magnitude is the only one that rounds to its double. -/
theorem ofInt_injective_of_small {i j : Int} (small : i.natAbs < 2 ^ 53)
    (same : ofInt i = ofInt j) : i = j := by
  rcases Int.lt_trichotomy i j with before | equal | after
  · have places := place_ofInt_lt before (Or.inl small)
    rw [same] at places
    exact absurd places (Int.lt_irrefl _)
  · exact equal
  · have places := place_ofInt_lt after (Or.inr small)
    rw [same] at places
    exact absurd places (Int.lt_irrefl _)

/-- Only zero rounds to a zero. -/
theorem eq_zero_of_isZero {i : Int} (zero : (ofInt i).isZero = true) : i = 0 := by
  have rank : min (rankOf i.natAbs) (rankLimit - 1) = 0 := by
    rw [← (ofInt_eq i).2]
    exact beq_iff_eq.mp zero
  have limit : 0 < rankLimit - 1 := by decide
  rcases Nat.eq_zero_or_pos i.natAbs with none | positive
  · omega
  · have above := rankOf_lt (by decide) positive
    omega

/-- An integer below `2 ^ 53` in magnitude is the only one of the value of its double. -/
theorem eq_of_sameValue_ofInt {i j : Int} (small : i.natAbs < 2 ^ 53)
    (same : (ofInt i).sameValue (ofInt j) = true) : i = j := by
  rw [sameValue, Bool.or_eq_true, Bool.and_eq_true, beq_iff_eq] at same
  rcases same with equal | ⟨zero, zero'⟩
  · exact ofInt_injective_of_small small equal
  · rw [eq_zero_of_isZero zero, eq_zero_of_isZero zero']

end EventDispatch.Double
