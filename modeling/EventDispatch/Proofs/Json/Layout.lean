import EventDispatch.Proofs.Json.Shortest
import Mathlib.Data.List.TakeWhile
/-!
The layout of decimals.

Purpose: digits with or without a point, scaled by an exponent or not, spell a number, which can be
read off the characters alone. A decimal that is laid out, in either way, spells its value.

Main exports: `Layout.spelled`, `Decimal.positional_cases`, `Decimal.positional_positional`,
`Decimal.withExponent_cases`, `Decimal.spelled_withExponent`.
-/

namespace EventDispatch

namespace Layout

/-- What stands before the first occurrence of a character, and what stands behind it. -/
def cut (c : Char) (text : List Char) : List Char × List Char :=
  (text.takeWhile (· != c), (text.dropWhile (· != c)).tail)

theorem cut_append {c : Char} {front : List Char} (absent : c ∉ front) (back : List Char) :
    cut c (front ++ c :: back) = (front, back) := by
  have other : ∀ a ∈ front, (a != c) = true := by
    intro a member
    simpa using ne_of_mem_of_not_mem member absent
  simp [cut, List.takeWhile_append_of_pos other, List.dropWhile_append_of_pos other]

theorem cut_of_not_mem {c : Char} {text : List Char} (absent : c ∉ text) :
    cut c text = (text, []) := by
  have other : ∀ a ∈ text, (a != c) = true := by
    intro a member
    simpa using ne_of_mem_of_not_mem member absent
  simp [cut, List.takeWhile_eq_self_iff.mpr other, List.dropWhile_eq_nil_iff.mpr other]

/-- The number that digits with at most one point among them spell. -/
def positional (text : List Char) : ℚ :=
  Nat.ofDigitChars 10 ((cut '.' text).1 ++ (cut '.' text).2) 0 / 10 ^ (cut '.' text).2.length

/-- The number that signed digits spell. -/
def signed : List Char → Int
  | '-' :: digits => -(Nat.ofDigitChars 10 digits 0)
  | '+' :: digits => Nat.ofDigitChars 10 digits 0
  | _ => 0

/-- The number that the text of a magnitude spells. -/
def spelled (text : List Char) : ℚ :=
  positional (cut 'e' text).1 * (10 : ℚ) ^ signed (cut 'e' text).2

theorem positional_whole {whole : List Char} (absent : '.' ∉ whole) :
    positional whole = Nat.ofDigitChars 10 whole 0 := by
  simp [positional, cut_of_not_mem absent]

theorem positional_pointed {whole : List Char} (absent : '.' ∉ whole) (fraction : List Char) :
    positional (whole ++ '.' :: fraction)
      = Nat.ofDigitChars 10 (whole ++ fraction) 0 / 10 ^ fraction.length := by
  simp [positional, cut_append absent]

theorem spelled_of_not_mem {text : List Char} (absent : 'e' ∉ text) :
    spelled text = positional text := by
  simp [spelled, cut_of_not_mem absent, signed]

/-- Zeros behind digits scale the number. -/
theorem ofDigitChars_append_zeros (digits : List Char) (n : Nat) :
    Nat.ofDigitChars 10 (digits ++ List.replicate n '0') 0
      = Nat.ofDigitChars 10 digits 0 * 10 ^ n := by
  rw [Nat.ofDigitChars_append, Nat.ofDigitChars_replicate_zero, Nat.mul_comm]

/-- Zeros before digits leave the number. -/
theorem ofDigitChars_zeros_append (n : Nat) (digits : List Char) :
    Nat.ofDigitChars 10 (List.replicate n '0' ++ digits) 0 = Nat.ofDigitChars 10 digits 0 := by
  rw [Nat.ofDigitChars_append, Nat.ofDigitChars_replicate_zero, Nat.mul_zero]

end Layout

namespace Decimal

open Layout

variable (d : Decimal)

theorem ofDigitChars_digitChars : Nat.ofDigitChars 10 d.digitChars 0 = d.digits :=
  Nat.ofDigitChars_ten_toDigits

theorem digitChars_ne_nil : d.digitChars ≠ [] := Nat.toDigits_ne_nil

/-- What is no digit does not occur among the digits. -/
theorem not_mem_digitChars {c : Char} (other : c.isDigit = false) : c ∉ d.digitChars := by
  intro member
  rw [Nat.isDigit_of_mem_toDigits (by decide) (by decide) member] at other
  exact absurd other (by simp)

/-- Positional notation is digits behind a point, digits with zeros behind them, or digits around a
point. -/
theorem positional_cases :
    (∃ n : Nat, d.scale = -(n + d.digitChars.length : Nat) ∧
      d.positional = ['0'] ++ '.' :: (List.replicate n '0' ++ d.digitChars)) ∨
    (∃ n : Nat, d.scale = n ∧ d.positional = d.digitChars ++ List.replicate n '0') ∨
    (∃ front back, d.digitChars = front ++ back ∧ front ≠ [] ∧ back ≠ [] ∧
      d.scale = -(back.length : Nat) ∧ d.positional = front ++ '.' :: back) := by
  have some : 0 < d.digitChars.length := List.length_pos_of_ne_nil d.digitChars_ne_nil
  have exponent : d.exponent = d.scale + d.digitChars.length - 1 := rfl
  unfold Decimal.positional
  by_cases small : d.exponent + 1 ≤ 0
  · left
    refine ⟨(-(d.exponent + 1)).toNat, by omega, ?_⟩
    simp [small]
  · right
    by_cases whole : d.digitChars.length ≤ (d.exponent + 1).toNat
    · left
      refine ⟨(d.exponent + 1).toNat - d.digitChars.length, by omega, ?_⟩
      simp [small, whole]
    · right
      refine ⟨_, _, (List.take_append_drop (d.exponent + 1).toNat _).symm, ?_, ?_, ?_, ?_⟩
      · apply List.ne_nil_of_length_pos
        rw [List.length_take]
        omega
      · apply List.ne_nil_of_length_pos
        rw [List.length_drop]
        omega
      · rw [List.length_drop]
        omega
      · simp [small, whole]

/-- Integral decimals have zeros behind their digits. -/
theorem positional_of_whole (whole : 0 ≤ d.scale) :
    ∃ n : Nat, d.scale = n ∧ d.positional = d.digitChars ++ List.replicate n '0' := by
  have digits : 0 < d.digitChars.length := List.length_pos_of_ne_nil d.digitChars_ne_nil
  rcases d.positional_cases with ⟨n, scale, _⟩ | scaled | ⟨front, back, _, _, some, scale, _⟩
  · omega
  · exact scaled
  · have fraction : 0 < back.length := List.length_pos_of_ne_nil some
    omega

/-- Other decimals show a point. -/
theorem point_mem_positional (fraction : d.scale < 0) : '.' ∈ d.positional := by
  rcases d.positional_cases with ⟨_, _, text⟩ | ⟨n, scale, _⟩ | ⟨front, back, _, _, _, _, text⟩
  · simp [text]
  · omega
  · simp [text]

/-- Positional notation spells the decimal. -/
theorem positional_positional : Layout.positional d.positional = d.value := by
  have point := d.not_mem_digitChars (c := '.') (by decide)
  unfold value
  rcases d.positional_cases with
    ⟨n, scale, text⟩ | ⟨n, scale, text⟩ | ⟨front, back, digits, _, _, scale, text⟩
  · rw [text, positional_pointed (by decide), ← List.append_assoc, scale,
      show ['0'] ++ List.replicate n '0' = List.replicate (n + 1) '0' from rfl,
      ofDigitChars_zeros_append, ofDigitChars_digitChars, zpow_neg, zpow_natCast,
      List.length_append, List.length_replicate, div_eq_mul_inv]
  · have absent : '.' ∉ d.digitChars ++ List.replicate n '0' := by
      simp [point]
    rw [text, positional_whole absent, ofDigitChars_append_zeros, ofDigitChars_digitChars, scale,
      zpow_natCast, Nat.cast_mul, Nat.cast_pow, Nat.cast_ofNat]
  · have absent : '.' ∉ front := fun member => point (digits ▸ List.mem_append_left _ member)
    rw [text, positional_pointed absent, ← digits, ofDigitChars_digitChars, scale, zpow_neg,
      zpow_natCast, div_eq_mul_inv]

/-- Scientific notation is a first digit, the other digits behind a point if there are any, and the
signed exponent. -/
theorem withExponent_cases :
    ∃ mantissa, d.withExponent = mantissa ++ 'e' ::
        (if d.exponent < 0 then '-' else '+') :: Nat.toDigits 10 d.exponent.natAbs ∧
      ((∃ c, d.digitChars = [c] ∧ mantissa = [c]) ∨
        ∃ c cs, d.digitChars = c :: cs ∧ cs ≠ [] ∧ mantissa = c :: '.' :: cs) := by
  unfold withExponent
  split
  · rename_i nothing
    exact absurd nothing d.digitChars_ne_nil
  · rename_i c alone
    exact ⟨[c], rfl, Or.inl ⟨c, alone, rfl⟩⟩
  · rename_i c cs more digits
    exact ⟨c :: '.' :: cs, rfl, Or.inr ⟨c, cs, digits, by simpa using more, rfl⟩⟩

/-- The first digit and the others behind a point spell the digits, scaled down. -/
theorem spelled_mantissa {mantissa : List Char}
    (cases : (∃ c, d.digitChars = [c] ∧ mantissa = [c]) ∨
      ∃ c cs, d.digitChars = c :: cs ∧ cs ≠ [] ∧ mantissa = c :: '.' :: cs) :
    'e' ∉ mantissa ∧
      Layout.positional mantissa = d.digits / (10 : ℚ) ^ (d.digitChars.length - 1) := by
  have point := d.not_mem_digitChars (c := '.') (by decide)
  have letter := d.not_mem_digitChars (c := 'e') (by decide)
  have spelled := d.ofDigitChars_digitChars
  rcases cases with ⟨c, digits, rfl⟩ | ⟨c, cs, digits, _, rfl⟩
  · rw [digits] at point letter spelled ⊢
    refine ⟨letter, ?_⟩
    rw [positional_whole point, spelled]
    simp
  · rw [digits] at point letter spelled ⊢
    constructor
    · simpa using letter
    · have absent : '.' ∉ [c] := by
        simp only [List.mem_cons, not_or] at point
        simpa using point.1
      rw [← List.singleton_append, positional_pointed absent, List.singleton_append, spelled]
      rfl

theorem signed_exponent (e : Int) :
    signed ((if e < 0 then '-' else '+') :: Nat.toDigits 10 e.natAbs) = e := by
  split
  · simp only [signed, Nat.ofDigitChars_ten_toDigits]
    omega
  · simp only [signed, Nat.ofDigitChars_ten_toDigits]
    omega

/-- Scientific notation spells the decimal. -/
theorem spelled_withExponent : Layout.spelled d.withExponent = d.value := by
  obtain ⟨mantissa, text, cases⟩ := d.withExponent_cases
  obtain ⟨letter, number⟩ := d.spelled_mantissa cases
  have some : 0 < d.digitChars.length := List.length_pos_of_ne_nil d.digitChars_ne_nil
  have exponent : d.exponent = ((d.digitChars.length - 1 : ℕ) : Int) + d.scale := by
    unfold Decimal.exponent
    omega
  rw [text, spelled, cut_append letter, number, signed_exponent, exponent,
    zpow_add₀ (by norm_num), zpow_natCast, value, ← mul_assoc, div_mul_cancel₀ _ (by positivity)]

end Decimal
end EventDispatch
