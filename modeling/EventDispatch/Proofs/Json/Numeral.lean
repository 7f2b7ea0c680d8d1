import EventDispatch.Proofs.Json.Layout
/-!
The texts of numbers.

Purpose: the text of a number is a run of digits, signs, points and exponent letters, so it ends
where another character follows. It determines the number: the text of a double spells a number that
rounds to its magnitude only, shows its sign, and is the text of no integer.

Main exports: `Numeral.isMark`, `Numeral.split`, `Double.owns_magnitudeText`,
`Double.text_injective`, `Number.text_injective`, `Number.marks_text`, `Number.head_text`.
-/

namespace EventDispatch

namespace Numeral

/-- The characters of numbers. -/
def isMark (c : Char) : Bool := c.isDigit || c == '-' || c == '+' || c == '.' || c == 'e'

theorem isMark_of_isDigit {c : Char} (digit : c.isDigit = true) : isMark c = true := by
  simp [isMark, digit]

theorem isDigit_of_mem_toDigits {c : Char} {n : Nat} (member : c ∈ Nat.toDigits 10 n) :
    c.isDigit = true :=
  Nat.isDigit_of_mem_toDigits (by decide) (by decide) member

theorem marks_toDigits (n : Nat) : (Nat.toDigits 10 n).all isMark = true := by
  rw [List.all_eq_true]
  intro c member
  exact isMark_of_isDigit (isDigit_of_mem_toDigits member)

/-- Nothing follows, or something that is no part of a number. -/
def Stops (rest : List Char) : Prop := ∀ c ∈ rest.head?, isMark c = false

theorem takeWhile_marks {front rest : List Char} (marks : front.all isMark = true)
    (stops : Stops rest) : (front ++ rest).takeWhile isMark = front := by
  rw [List.takeWhile_append_of_pos (List.all_eq_true.mp marks)]
  cases rest with
  | nil => simp
  | cons c rest => simp [stops c rfl]

/-- Where a number ends is seen from the text. -/
theorem split {front front' rest rest' : List Char} (marks : front.all isMark = true)
    (marks' : front'.all isMark = true) (stops : Stops rest) (stops' : Stops rest')
    (same : front ++ rest = front' ++ rest') : front = front' ∧ rest = rest' := by
  have fronts : front = front' := by
    rw [← takeWhile_marks marks stops, same, takeWhile_marks marks' stops']
  subst fronts
  exact ⟨rfl, List.append_cancel_left same⟩

end Numeral

open Numeral

namespace Decimal

variable (d : Decimal)

theorem marks_positional : d.positional.all isMark = true := by
  have digits : d.digitChars.all isMark = true := marks_toDigits d.digits
  have zero : isMark '0' = true := rfl
  have point : isMark '.' = true := rfl
  rcases d.positional_cases with
    ⟨n, _, text⟩ | ⟨n, _, text⟩ | ⟨front, back, parts, _, _, _, text⟩
  · simp [text, digits, zero, point]
  · simp [text, digits, zero]
  · rw [parts, List.all_append, Bool.and_eq_true] at digits
    simp [text, digits, point]

theorem marks_withExponent : d.withExponent.all isMark = true := by
  have digits : d.digitChars.all isMark = true := marks_toDigits d.digits
  have exponent := marks_toDigits d.exponent.natAbs
  have letter : isMark 'e' = true := rfl
  have point : isMark '.' = true := rfl
  have sign : isMark (if d.exponent < 0 then '-' else '+') = true := by
    split <;> rfl
  obtain ⟨mantissa, text, ⟨c, parts, rfl⟩ | ⟨c, cs, parts, _, rfl⟩⟩ := d.withExponent_cases
  · rw [parts] at digits
    simp only [List.all_cons, Bool.and_eq_true] at digits
    simp only [text, List.all_append, List.all_cons, digits, letter, sign, exponent,
      Bool.and_self]
  · rw [parts] at digits
    simp only [List.all_cons, Bool.and_eq_true] at digits
    simp only [text, List.all_append, List.all_cons, digits, letter, point, sign, exponent,
      Bool.and_self]

theorem isDigit_of_digitChars {c : Char} {cs : List Char} (digits : d.digitChars = c :: cs) :
    c.isDigit = true := by
  have member : c ∈ d.digitChars := digits ▸ List.mem_cons_self
  exact isDigit_of_mem_toDigits member

/-- A decimal begins with a digit. -/
theorem head_positional : ∃ c rest, d.positional = c :: rest ∧ c.isDigit = true := by
  obtain ⟨c, cs, digits⟩ := List.exists_cons_of_ne_nil d.digitChars_ne_nil
  rcases d.positional_cases with
    ⟨n, _, text⟩ | ⟨n, _, text⟩ | ⟨front, back, parts, some, _, _, text⟩
  · exact ⟨'0', _, text, rfl⟩
  · rw [digits] at text
    exact ⟨c, _, text, d.isDigit_of_digitChars digits⟩
  · obtain ⟨first, others, rfl⟩ := List.exists_cons_of_ne_nil some
    exact ⟨first, _, text, d.isDigit_of_digitChars parts⟩

theorem head_withExponent : ∃ c rest, d.withExponent = c :: rest ∧ c.isDigit = true := by
  obtain ⟨mantissa, text, ⟨c, parts, rfl⟩ | ⟨c, cs, parts, _, rfl⟩⟩ := d.withExponent_cases
  · exact ⟨c, _, text, d.isDigit_of_digitChars parts⟩
  · exact ⟨c, _, text, d.isDigit_of_digitChars parts⟩

/-- No exponent letter stands in positional notation. -/
theorem letter_not_mem_positional : 'e' ∉ d.positional := by
  have letter := d.not_mem_digitChars (c := 'e') (by decide)
  rcases d.positional_cases with
    ⟨n, _, text⟩ | ⟨n, _, text⟩ | ⟨front, back, parts, _, _, _, text⟩
  · simp [text, letter]
  · simp [text, letter]
  · rw [parts, List.mem_append] at letter
    simpa [text] using letter

end Decimal

namespace Double

open Layout

variable (x : Double)

/-- The text of a magnitude is `0.0`, a decimal in positional notation with or without `.0` behind
it, or a decimal with an exponent. -/
theorem magnitudeText_cases :
    (x.rank = 0 ∧ x.magnitudeText = ['0', '.', '0']) ∨
    (x.rank ≠ 0 ∧ 0 ≤ x.decimal.scale ∧ x.magnitudeText = x.decimal.positional ++ ['.', '0']) ∨
    (x.rank ≠ 0 ∧ x.decimal.scale < 0 ∧ x.magnitudeText = x.decimal.positional) ∨
    (x.rank ≠ 0 ∧ x.magnitudeText = x.decimal.withExponent) := by
  unfold magnitudeText isZero
  by_cases zero : x.rank = 0
  · simp [zero]
  · by_cases positionally : writtenPositionally x.decimal.exponent = true
    · rcases Int.lt_or_le x.decimal.scale 0 with fraction | whole
      · simp [zero, positionally, fraction, Int.not_le.mpr fraction]
      · simp [zero, positionally, whole]
    · simp [zero, positionally]

/-- The text of zero spells a number that rounds to it. -/
private theorem owns_zero (zero : x.rank = 0) :
    x.interval.Owns (spelled ['0', '.', '0'] * 2 ^ 1076) := by
  have nothing : spelled ['0', '.', '0'] = 0 := by
    have digits : positional (['0'] ++ '.' :: ['0']) = 0 := by
      have zeros : Nat.ofDigitChars 10 (['0'] ++ ['0']) 0 = 0 := rfl
      rw [positional_pointed (by decide), zeros]
      simp
    exact (spelled_of_not_mem (by decide)).trans digits
  have significand : x.significand = 0 := by
    rw [(subnormal (x := x) (by rw [zero]; decide)).2, zero]
  have even : x.interval.closed = true := by simp [interval, significand]
  have low : x.interval.low = 0 := by simp [interval, units, significand]
  rw [nothing, zero_mul, Interval.Owns, if_pos even, low]
  exact ⟨by simp, Nat.cast_nonneg _⟩

/-- Behind an integral decimal `.0` changes nothing. -/
private theorem spelled_whole {d : Decimal} (whole : 0 ≤ d.scale) :
    spelled (d.positional ++ ['.', '0']) = d.value := by
  obtain ⟨n, scale, text⟩ := d.positional_of_whole whole
  have point : '.' ∉ d.digitChars ++ List.replicate n '0' := by
    simp [d.not_mem_digitChars (c := '.') (by decide)]
  have letter : 'e' ∉ d.positional ++ ['.', '0'] := by
    simp [d.letter_not_mem_positional]
  rw [spelled_of_not_mem letter, text, positional_pointed point, List.append_assoc,
    ← List.replicate_succ', ofDigitChars_append_zeros, d.ofDigitChars_digitChars, Decimal.value,
    scale, zpow_natCast, List.length_singleton, pow_one, Nat.cast_mul, Nat.cast_pow,
    Nat.cast_ofNat, pow_succ, ← mul_assoc, mul_div_cancel_right₀ _ (by norm_num)]

/-- The text of a magnitude spells a number that rounds to it. -/
theorem owns_magnitudeText : x.interval.Owns (spelled x.magnitudeText * 2 ^ 1076) := by
  rcases x.magnitudeText_cases with
    ⟨zero, text⟩ | ⟨nonzero, whole, text⟩ | ⟨nonzero, _, text⟩ | ⟨nonzero, text⟩
  · rw [text]
    exact x.owns_zero zero
  · rw [text, spelled_whole whole]
    exact owns_decimal nonzero
  · rw [text, spelled_of_not_mem x.decimal.letter_not_mem_positional,
      x.decimal.positional_positional]
    exact owns_decimal nonzero
  · rw [text, x.decimal.spelled_withExponent]
    exact owns_decimal nonzero

theorem marks_magnitudeText : x.magnitudeText.all isMark = true := by
  have point : isMark '.' = true := rfl
  have zero : isMark '0' = true := rfl
  rcases x.magnitudeText_cases with ⟨_, text⟩ | ⟨_, _, text⟩ | ⟨_, _, text⟩ | ⟨_, text⟩
  · simp [text, point, zero]
  · simp [text, x.decimal.marks_positional, point, zero]
  · simp [text, x.decimal.marks_positional]
  · simp [text, x.decimal.marks_withExponent]

theorem head_magnitudeText : ∃ c rest, x.magnitudeText = c :: rest ∧ c.isDigit = true := by
  rcases x.magnitudeText_cases with ⟨_, text⟩ | ⟨_, _, text⟩ | ⟨_, _, text⟩ | ⟨_, text⟩
  · exact ⟨'0', _, text, rfl⟩
  · obtain ⟨c, rest, digits, digit⟩ := x.decimal.head_positional
    rw [digits] at text
    exact ⟨c, _, text, digit⟩
  · rw [text]
    exact x.decimal.head_positional
  · rw [text]
    exact x.decimal.head_withExponent

/-- The text of a double shows a point or an exponent. -/
theorem point_or_letter_mem : '.' ∈ x.magnitudeText ∨ 'e' ∈ x.magnitudeText := by
  rcases x.magnitudeText_cases with ⟨_, text⟩ | ⟨_, _, text⟩ | ⟨_, fraction, text⟩ | ⟨_, text⟩
  · simp [text]
  · simp [text]
  · left
    rw [text]
    exact x.decimal.point_mem_positional fraction
  · right
    obtain ⟨mantissa, scientific, _⟩ := x.decimal.withExponent_cases
    simp [text, scientific]

theorem rank_eq_of_magnitudeText {x y : Double} (same : x.magnitudeText = y.magnitudeText) :
    x.rank = y.rank := by
  have ownsY := y.owns_magnitudeText
  rw [← same] at ownsY
  exact rank_eq_of_owns x.owns_magnitudeText ownsY

end Double

namespace Numeral

/-- Behind an optional sign, texts that begin with digits show whether the sign is there. -/
theorem signed_inj {front back : List Char} {minus minus' : Bool}
    (head : ∃ c rest, front = c :: rest ∧ c.isDigit = true)
    (head' : ∃ c rest, back = c :: rest ∧ c.isDigit = true)
    (same : (if minus then '-' :: front else front) = if minus' then '-' :: back else back) :
    minus = minus' ∧ front = back := by
  obtain ⟨c, rest, rfl, digit⟩ := head
  obtain ⟨c', rest', rfl, digit'⟩ := head'
  have noSign : Char.isDigit '-' = false := rfl
  cases minus with
  | true =>
      cases minus' with
      | true => simpa using same
      | false =>
          simp only [if_true, Bool.false_eq_true, if_false, List.cons.injEq] at same
          rw [← same.1, noSign] at digit'
          exact absurd digit' (by simp)
  | false =>
      cases minus' with
      | true =>
          simp only [if_true, Bool.false_eq_true, if_false, List.cons.injEq] at same
          rw [same.1, noSign] at digit
          exact absurd digit (by simp)
      | false => simpa using same

end Numeral

theorem Double.toList_text (x : Double) :
    x.text.toList = if x.negative then '-' :: x.magnitudeText else x.magnitudeText :=
  String.toList_ofList

/-- Different doubles have different texts. -/
theorem Double.text_injective : Function.Injective Double.text := by
  intro x y same
  have texts := congrArg String.toList same
  rw [x.toList_text, y.toList_text] at texts
  obtain ⟨sign, magnitude⟩ := signed_inj x.head_magnitudeText y.head_magnitudeText texts
  have rank := rank_eq_of_magnitudeText magnitude
  cases x
  cases y
  simp_all

namespace Number

theorem toList_toString (i : Int) :
    (toString i).toList
      = if decide (i < 0) then '-' :: Nat.toDigits 10 i.natAbs else Nat.toDigits 10 i.natAbs := by
  cases i with
  | ofNat n => simp [Int.toString_eq_repr, Int.repr]
  | negSucc n => simp [Int.toString_eq_repr, Int.repr, Int.negSucc_lt_zero]

theorem head_toDigits (n : Nat) : ∃ c rest, Nat.toDigits 10 n = c :: rest ∧ c.isDigit = true := by
  obtain ⟨c, rest, digits⟩ := List.exists_cons_of_ne_nil (Nat.toDigits_ne_nil (b := 10) (n := n))
  exact ⟨c, rest, digits, isDigit_of_mem_toDigits (digits ▸ List.mem_cons_self)⟩

theorem mem_toString {i : Int} {c : Char} (member : c ∈ (toString i).toList) :
    c = '-' ∨ c.isDigit = true := by
  rw [toList_toString] at member
  split at member
  · exact (List.mem_cons.mp member).imp_right isDigit_of_mem_toDigits
  · exact Or.inr (isDigit_of_mem_toDigits member)

/-- No integer has the text of a double. -/
theorem toString_ne_text (i : Int) (x : Double) : toString i ≠ x.text := by
  intro same
  have inText : ∀ c ∈ x.magnitudeText, c = '-' ∨ c.isDigit = true := by
    intro c member
    apply mem_toString (i := i)
    rw [same, x.toList_text]
    split
    · exact List.mem_cons_of_mem _ member
    · exact member
  rcases x.point_or_letter_mem with point | letter
  · exact absurd (inText _ point) (by decide)
  · exact absurd (inText _ letter) (by decide)

/-- Different numbers have different texts. -/
theorem text_injective : Function.Injective Number.text := by
  intro m n same
  cases m with
  | integer i _ =>
      cases n with
      | integer j _ =>
          have texts := congrArg String.toList same
          simp only [text] at texts
          rw [toList_toString, toList_toString] at texts
          obtain ⟨sign, digits⟩ := signed_inj (head_toDigits _) (head_toDigits _) texts
          have magnitude : i.natAbs = j.natAbs := by
            have numbers := congrArg (fun cs => Nat.ofDigitChars 10 cs 0) digits
            simpa only [Nat.ofDigitChars_ten_toDigits] using numbers
          rw [decide_eq_decide] at sign
          have value : i = j := by omega
          subst value
          rfl
      | double y => exact absurd same (toString_ne_text i y)
  | double x =>
      cases n with
      | integer j _ => exact absurd same.symm (toString_ne_text j x)
      | double y => rw [Double.text_injective same]

theorem marks_text (n : Number) : n.text.toList.all isMark = true := by
  have minus : isMark '-' = true := rfl
  cases n with
  | integer i _ =>
      simp only [text]
      rw [toList_toString]
      split <;> simp [minus, marks_toDigits]
  | double x =>
      simp only [text]
      rw [x.toList_text]
      split <;> simp [minus, x.marks_magnitudeText]

theorem head_text (n : Number) :
    ∃ c rest, n.text.toList = c :: rest ∧ (c = '-' ∨ c.isDigit = true) := by
  cases n with
  | integer i _ =>
      simp only [text]
      rw [toList_toString]
      split
      · exact ⟨'-', _, rfl, Or.inl rfl⟩
      · obtain ⟨c, rest, digits, digit⟩ := head_toDigits i.natAbs
        exact ⟨c, rest, digits, Or.inr digit⟩
  | double x =>
      simp only [text]
      rw [x.toList_text]
      split
      · exact ⟨'-', _, rfl, Or.inl rfl⟩
      · obtain ⟨c, rest, digits, digit⟩ := x.head_magnitudeText
        exact ⟨c, rest, digits, Or.inr digit⟩

end Number
end EventDispatch
