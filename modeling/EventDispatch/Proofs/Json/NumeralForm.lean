import EventDispatch.Proofs.Json.Numeral
/-!
The form of numerals.

Purpose: behind its sign, the text of a number is a whole part without leading zeros, perhaps a
fraction, and perhaps a signed exponent, each of at least one digit. This is the form that a reader
of JSON text asks for.

Main exports: `Numeral.Whole`, `Numeral.Fraction`, `Numeral.Exponent`, `Numeral.Magnitude`,
`Double.decimal_ne_zero`, `Number.text_form`.
-/

namespace EventDispatch

namespace Numeral

/-- A whole part: a zero alone, or digits of which the first is no zero. -/
inductive Whole : List Char → Prop where
  | zero : Whole ['0']
  | digits {c : Char} {cs : List Char} (first : c ≠ '0') (all : (c :: cs).all Char.isDigit = true) :
      Whole (c :: cs)

/-- A fraction, if there is one. -/
inductive Fraction : List Char → Prop where
  | none : Fraction []
  | digits {cs : List Char} (some : cs ≠ []) (all : cs.all Char.isDigit = true) :
      Fraction ('.' :: cs)

/-- A signed exponent, if there is one. -/
inductive Exponent : List Char → Prop where
  | none : Exponent []
  | digits {sign : Char} {cs : List Char} (signed : sign = '+' ∨ sign = '-') (some : cs ≠ [])
      (all : cs.all Char.isDigit = true) : Exponent ('e' :: sign :: cs)

/-- The text of a number without its sign. -/
inductive Magnitude : List Char → Prop where
  | parts {whole fraction exponent : List Char} (front : Whole whole) (middle : Fraction fraction)
      (back : Exponent exponent) : Magnitude (whole ++ (fraction ++ exponent))

/-- A numeral begins with a digit. -/
theorem Whole.head {text : List Char} (form : Whole text) :
    ∃ c cs, text = c :: cs ∧ c.isDigit = true := by
  cases form with
  | zero => exact ⟨_, _, rfl, rfl⟩
  | digits _ all =>
      rw [List.all_cons, Bool.and_eq_true] at all
      exact ⟨_, _, rfl, all.1⟩

theorem Magnitude.head {text : List Char} (form : Magnitude text) :
    ∃ c cs, text = c :: cs ∧ c.isDigit = true := by
  cases form with
  | parts front =>
      obtain ⟨c, cs, rfl, digit⟩ := front.head
      exact ⟨c, _, rfl, digit⟩

theorem all_isDigit_toDigits (n : Nat) : (Nat.toDigits 10 n).all Char.isDigit = true :=
  List.all_eq_true.mpr fun _ => isDigit_of_mem_toDigits

/-- The digits of a number other than zero begin with no zero. -/
theorem head_toDigits_ne_zero {n : Nat} (nonzero : n ≠ 0) :
    ∃ c cs, Nat.toDigits 10 n = c :: cs ∧ c ≠ '0' := by
  induction n using Nat.strongRecOn with
  | ind n inductionHypothesis =>
      rcases Nat.lt_or_ge n 10 with small | large
      · have first : ∀ n < 10, n ≠ 0 → Nat.digitChar n ≠ '0' := by decide
        exact ⟨_, [], Nat.toDigits_of_lt_base small, first n small nonzero⟩
      · obtain ⟨c, cs, digits, first⟩ := inductionHypothesis (n / 10) (by omega) (by omega)
        refine ⟨c, cs ++ [(n % 10).digitChar], ?_, first⟩
        rw [Nat.toDigits_of_base_le (by decide) large, digits, List.cons_append]

/-- The digits of a number are a whole part, and so are those of a number other than zero with
further digits behind them. -/
theorem whole_toDigits {n : Nat} {more : List Char} (allowed : n ≠ 0 ∨ more = [])
    (all : more.all Char.isDigit = true) : Whole (Nat.toDigits 10 n ++ more) := by
  by_cases zero : n = 0
  · rw [allowed.resolve_left (not_not_intro zero), zero]
    exact .zero
  · obtain ⟨c, cs, text, first⟩ := head_toDigits_ne_zero zero
    have every : (c :: cs ++ more).all Char.isDigit = true := by
      rw [← text, List.all_append, all_isDigit_toDigits, all]
      rfl
    rw [text]
    exact .digits first every

theorem whole_singleton {c : Char} (digit : c.isDigit = true) : Whole [c] := by
  by_cases zero : c = '0'
  · rw [zero]
    exact .zero
  · exact .digits zero (by simp [digit])

theorem all_replicate_zero (n : Nat) : (List.replicate n '0').all Char.isDigit = true := by
  rw [List.all_eq_true]
  intro c member
  rw [List.eq_of_mem_replicate member]
  rfl

end Numeral

open Numeral

namespace Decimal

variable (d : Decimal)

/-- Positional notation of a decimal other than zero has the form of numerals. -/
theorem positional_form (nonzero : d.digits ≠ 0) : Magnitude d.positional := by
  have all : d.digitChars.all Char.isDigit = true := all_isDigit_toDigits d.digits
  rcases d.positional_cases with
    ⟨n, _, text⟩ | ⟨n, _, text⟩ | ⟨front, back, digits, some, some', _, text⟩
  · have fraction : (List.replicate n '0' ++ d.digitChars).all Char.isDigit = true := by
      rw [List.all_append, all_replicate_zero, all]
      rfl
    rw [text]
    simpa using Magnitude.parts .zero (.digits (by simp [d.digitChars_ne_nil]) fraction) .none
  · have whole : Whole (d.digitChars ++ List.replicate n '0') :=
      whole_toDigits (Or.inl nonzero) (all_replicate_zero n)
    rw [text]
    simpa using Magnitude.parts whole .none .none
  · obtain ⟨c, cs, own, first⟩ := head_toDigits_ne_zero nonzero
    obtain ⟨c', cs', rfl⟩ := List.exists_cons_of_ne_nil some
    have same : c = c' := by
      have heads : c :: cs = c' :: (cs' ++ back) := own.symm.trans digits
      exact (List.cons.inj heads).1
    rw [digits, List.all_append, Bool.and_eq_true] at all
    rw [text]
    simpa using Magnitude.parts (.digits (same ▸ first) all.1) (.digits some' all.2) .none

/-- Scientific notation has the form of numerals. -/
theorem withExponent_form : Magnitude d.withExponent := by
  have all : d.digitChars.all Char.isDigit = true := all_isDigit_toDigits d.digits
  obtain ⟨mantissa, text, cases⟩ := d.withExponent_cases
  have exponent : Exponent ('e' :: (if d.exponent < 0 then '-' else '+')
      :: Nat.toDigits 10 d.exponent.natAbs) := by
    refine .digits ?_ Nat.toDigits_ne_nil (all_isDigit_toDigits _)
    split
    · exact Or.inr rfl
    · exact Or.inl rfl
  rw [text]
  rcases cases with ⟨c, digits, rfl⟩ | ⟨c, cs, digits, some, rfl⟩
  · rw [digits, List.all_cons, Bool.and_eq_true] at all
    exact .parts (whole_singleton all.1) .none exponent
  · rw [digits, List.all_cons, Bool.and_eq_true] at all
    exact .parts (whole_singleton all.1) (.digits some all.2) exponent

end Decimal

namespace Double

/-- The decimal of a magnitude other than zero is not zero. -/
theorem decimal_ne_zero {x : Double} (nonzero : x.rank ≠ 0) : x.decimal.digits ≠ 0 := by
  intro zero
  have below := (owns_decimal nonzero).bounds.1
  have nothing : x.decimal.quarters = 0 := by
    rw [Decimal.quarters, Decimal.value, zero]
    simp
  have positive : 0 < x.interval.low := by
    have step : 0 < 2 ^ x.exponent := Nat.two_pow_pos _
    have units : 2 ^ x.exponent ≤ x.units :=
      Nat.le_mul_of_pos_left _ (significand_pos nonzero)
    simp only [interval]
    split <;> omega
  rw [nothing] at below
  have least : x.interval.low ≤ 0 := by exact_mod_cast below
  omega

/-- The text of a magnitude has the form of numerals. -/
theorem magnitude_form (x : Double) : Magnitude x.magnitudeText := by
  have point : Fraction ['.', '0'] := .digits (List.cons_ne_nil '0' []) (by decide)
  rcases x.magnitudeText_cases with
    ⟨_, text⟩ | ⟨nonzero, whole, text⟩ | ⟨nonzero, _, text⟩ | ⟨_, text⟩
  · rw [text]
    exact .parts .zero point .none
  · obtain ⟨n, _, digits⟩ := x.decimal.positional_of_whole whole
    rw [text, digits]
    exact .parts (whole_toDigits (Or.inl (decimal_ne_zero nonzero)) (all_replicate_zero n)) point
      .none
  · rw [text]
    exact x.decimal.positional_form (decimal_ne_zero nonzero)
  · rw [text]
    exact x.decimal.withExponent_form

end Double

namespace Number

/-- The text of a number is a numeral, perhaps behind a minus sign. -/
theorem text_form (n : Number) :
    ∃ text, Magnitude text ∧ (n.text.toList = '-' :: text ∨ n.text.toList = text) := by
  cases n with
  | integer i fits =>
      refine ⟨Nat.toDigits 10 i.natAbs, ?_, ?_⟩
      · have whole : Whole (Nat.toDigits 10 i.natAbs ++ []) := whole_toDigits (Or.inr rfl) rfl
        simpa using Magnitude.parts whole .none .none
      · simp only [text]
        rw [toList_toString]
        split
        · exact Or.inl rfl
        · exact Or.inr rfl
  | double x =>
      refine ⟨x.magnitudeText, x.magnitude_form, ?_⟩
      simp only [text]
      rw [x.toList_text]
      split
      · exact Or.inl rfl
      · exact Or.inr rfl

end Number
end EventDispatch
