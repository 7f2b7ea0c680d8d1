import EventDispatch.Proofs.Json.NumeralForm
import EventDispatch.Proofs.Json.Quoted
/-!
Reading the leaves of JSON text.

Purpose: a reader takes exactly the text of a leaf, whatever was read before, provided that the text
ends or goes on with a comma or a closing bracket. A numeral is read as some number, or as one out
of range; a quoted string is read as the string.

Main exports: `Reader.Takes`, `Reader.Closes`, `Reader.takes_number`, `Reader.takes_string`.
-/

namespace EventDispatch

open Numeral

namespace Cursor

theorem rest_next {c : Cursor} {x : Char} {xs : List Char} (ahead : c.rest = x :: xs) :
    c.next.rest = xs := by
  unfold next
  rw [ahead]

/-- Digits are taken up to what is no digit. -/
theorem rest_takeDigits {c : Cursor} {digits rest : List Char}
    (all : digits.all Char.isDigit = true) (stops : ∀ x ∈ rest.head?, x.isDigit = false)
    (ahead : c.rest = digits ++ rest) :
    c.takeDigits.1.length = digits.length ∧ c.takeDigits.2.rest = rest := by
  have each := List.all_eq_true.mp all
  have taken : (digits ++ rest).takeWhile Char.isDigit = digits := by
    rw [List.takeWhile_append_of_pos each]
    cases rest with
    | nil => simp
    | cons x xs => simp [stops x rfl]
  have left : (digits ++ rest).dropWhile Char.isDigit = rest := by
    rw [List.dropWhile_append_of_pos each]
    cases rest with
    | nil => simp
    | cons x xs => simp [stops x rfl]
  unfold takeDigits
  rw [ahead, taken, left]
  exact ⟨List.length_map _, rfl⟩

/-- What is no blank is not skipped. -/
theorem skipBlanks_eq {c : Cursor} (plain : ∀ x ∈ c.rest.head?, isBlank x = false) :
    c.skipBlanks = c := by
  obtain ⟨rest, place, defect⟩ := c
  cases rest with
  | nil => rfl
  | cons x xs =>
      have own : isBlank x = false := plain x rfl
      simp [skipBlanks, skipList, own]

theorem skipBlanks_of_rest {c : Cursor} {x : Char} {xs : List Char} (ahead : c.rest = x :: xs)
    (plain : isBlank x = false) : c.skipBlanks = c := by
  apply skipBlanks_eq
  rw [ahead]
  rintro y ⟨⟩
  exact plain

end Cursor

namespace Reader

/-- The reader takes exactly a text, whatever was read before; the result has a property. -/
def Takes {α : Type} (read : Cursor → ReadResult α) (text rest : List Char)
    (result : α → Prop) : Prop :=
  ∀ c : Cursor, c.rest = text ++ rest → ∃ a c', read c = .ok (a, c') ∧ result a ∧ c'.rest = rest

/-- The text ends here, or a comma or a closing bracket follows. -/
def Closes (rest : List Char) : Prop := ∀ x ∈ rest.head?, x = ',' ∨ x = ']' ∨ x = '\x7d'

theorem Closes.ne_cons {rest : List Char} (closes : Closes rest) {y : Char}
    (other : y ≠ ',' ∧ y ≠ ']' ∧ y ≠ '\x7d') (tail : List Char) : rest ≠ y :: tail := by
  rintro rfl
  rcases closes y rfl with comma | bracket | brace
  · exact other.1 comma
  · exact other.2.1 bracket
  · exact other.2.2 brace

theorem Closes.isDigit {rest : List Char} (closes : Closes rest) :
    ∀ x ∈ rest.head?, x.isDigit = false := by
  intro x head
  rcases closes x head with rfl | rfl | rfl <;> rfl

/-! ### Numbers -/

/-- A number was read, perhaps one out of range. -/
def IsNumber (w : Written) : Prop := ∃ n, w = .number n

theorem finishNumber_eq (literal : Literal) (c : Cursor) :
    ∃ w c', finishNumber literal c = .ok (w, c') ∧ IsNumber w ∧ c'.rest = c.rest := by
  unfold finishNumber
  split
  · exact ⟨_, _, rfl, ⟨_, rfl⟩, rfl⟩
  · exact ⟨_, _, rfl, ⟨_, rfl⟩, rfl⟩

/-- The digits of an exponent are read to their end. -/
theorem takes_exponent (literal : Literal) {sign : Char} {digits rest : List Char}
    (signed : sign = '+' ∨ sign = '-') (some : digits ≠ [])
    (all : digits.all Char.isDigit = true) (closes : Closes rest) :
    Takes (exponent literal) (sign :: digits) rest IsNumber := by
  intro c ahead
  obtain ⟨d, ds, rfl⟩ := List.exists_cons_of_ne_nil some
  have digit : d.isDigit = true := by
    rw [List.all_cons, Bool.and_eq_true] at all
    exact all.1
  have next : c.next.rest = d :: (ds ++ rest) := Cursor.rest_next ahead
  obtain ⟨-, behind⟩ := Cursor.rest_takeDigits all closes.isDigit
    (show c.next.rest = d :: ds ++ rest from next)
  -- The two signs only differ in the exponent that is noted down.
  rcases signed with rfl | rfl
  all_goals
    unfold exponent
    simp only [ahead, List.cons_append, next, digit, Bool.not_true, Bool.false_eq_true, if_false]
    split
    · split
      · exact ⟨_, _, rfl, ⟨_, rfl⟩, behind⟩
      · exact ⟨_, _, rfl, ⟨_, rfl⟩, behind⟩
    · obtain ⟨w, c', read, number, same⟩ := finishNumber_eq _ c.next.takeDigits.2
      exact ⟨w, c', read, number, same.trans behind⟩

theorem takes_exponent? (literal : Literal) {text rest : List Char} (form : Exponent text)
    (closes : Closes rest) : Takes (exponent? literal) text rest IsNumber := by
  intro c ahead
  cases form with
  | digits signed some all =>
      have next := Cursor.rest_next ahead
      obtain ⟨w, c', read, number, behind⟩ :=
        takes_exponent literal signed some all closes c.next next
      refine ⟨w, c', ?_, number, behind⟩
      unfold exponent?
      rw [ahead]
      exact read
  | none =>
      obtain ⟨w, c', read, number, same⟩ := finishNumber_eq literal c
      refine ⟨w, c', ?_, number, same.trans ahead⟩
      unfold exponent?
      split
      · rename_i front
        exact absurd (ahead.symm.trans front) (closes.ne_cons (by decide) _)
      · rename_i front
        exact absurd (ahead.symm.trans front) (closes.ne_cons (by decide) _)
      · exact read

/-- Neither a fraction nor an exponent nor what closes begins with a digit. -/
theorem isDigit_head {fraction exponent rest : List Char} (middle : Fraction fraction)
    (back : Exponent exponent) (closes : Closes rest) :
    ∀ x ∈ (fraction ++ (exponent ++ rest)).head?, x.isDigit = false := by
  cases middle with
  | digits => rintro x ⟨⟩; rfl
  | none =>
      cases back with
      | digits => rintro x ⟨⟩; rfl
      | none => exact closes.isDigit

/-- The point belongs to a fraction. -/
theorem ne_point {exponent rest : List Char} (back : Exponent exponent) (closes : Closes rest)
    (tail : List Char) : exponent ++ rest ≠ '.' :: tail := by
  cases back with
  | digits => exact nofun
  | none => exact closes.ne_cons (by decide) tail

/-- A whole part is read to its end: a zero on its own, and other digits up to what is none. -/
theorem rest_whole {x : Char} {xs more : List Char} {c : Cursor} (front : Whole (x :: xs))
    (stops : ∀ y ∈ more.head?, y.isDigit = false) (ahead : c.rest = x :: xs ++ more) :
    (if x = '0' then ([0], c.next) else c.takeDigits).2.rest = more := by
  cases front with
  | zero =>
      rw [if_pos rfl]
      exact Cursor.rest_next ahead
  | digits first all =>
      rw [if_neg first]
      exact (Cursor.rest_takeDigits all stops ahead).2

/-- A numeral is read to its end. -/
theorem takes_number (negative : Bool) {text rest : List Char} (form : Magnitude text)
    (closes : Closes rest) : Takes (number negative) text rest IsNumber := by
  intro c ahead
  cases form with
  | @parts whole fraction exponent front middle back =>
      rw [List.append_assoc, List.append_assoc] at ahead
      obtain ⟨x, xs, rfl, digit⟩ := front.head
      have behind := rest_whole front (isDigit_head middle back closes) ahead
      unfold number
      rw [ahead]
      simp only [List.cons_append, digit, Bool.not_true, Bool.false_eq_true, if_false]
      generalize (if x = '0' then ([0], c.next) else c.takeDigits) = taken at behind ⊢
      have plain := isDigit_head .none back closes
      cases middle with
      | @digits cs some all =>
          have next := Cursor.rest_next behind
          obtain ⟨length, further⟩ := Cursor.rest_takeDigits all plain next
          have present : taken.2.next.takeDigits.1.isEmpty = false := by
            rw [List.isEmpty_eq_false_iff, ← List.length_pos_iff, length]
            exact List.length_pos_of_ne_nil some
          rw [behind]
          simp only [present, List.cons_append, Bool.false_eq_true, if_false]
          exact takes_exponent? _ back closes _ further
      | none =>
          split
          · rename_i point
            exact absurd (behind.symm.trans point) (ne_point back closes _)
          · rename_i y ys _ follows
            have other : y.isDigit = false := plain y (by rw [← behind, follows]; rfl)
            rw [other, Bool.and_false, if_neg Bool.false_ne_true]
            exact takes_exponent? _ back closes _ behind
          · exact takes_exponent? _ back closes _ behind

/-! ### Strings -/

open Json (escape hexDigit)

/-- A letter behind a backslash is taken for the character that it stands for. -/
theorem takes_letter {x y : Char} (other : y ≠ 'u') (stands : simpleEscape? y = some x)
    (rest : List Char) : Takes escaped [y] rest (· = some x) := by
  intro c ahead
  refine ⟨some x, c.next, ?_, rfl, Cursor.rest_next ahead⟩
  unfold escaped
  rw [ahead]
  simp only [List.cons_append, stands]

/-- The hexadecimal digits of a control character are taken for the character. -/
theorem takes_hexadecimal {x : Char} (control : x.toNat < 32) (rest : List Char) :
    Takes escaped ['u', '0', '0', hexDigit (x.toNat / 16), hexDigit (x.toNat % 16)] rest
      (· = some x) := by
  intro c ahead
  have next : c.next.rest = '0' :: '0' :: hexDigit (x.toNat / 16) :: hexDigit (x.toNat % 16)
      :: rest := Cursor.rest_next ahead
  have behind : c.next.next.next.next.next.rest = rest :=
    Cursor.rest_next (Cursor.rest_next (Cursor.rest_next (Cursor.rest_next next)))
  have bytes : ¬ bytesUpToFour c.next.rest < 4 := by
    have sizes := Char.utf8Size_pos
    have first := sizes (hexDigit (x.toNat / 16))
    have second := sizes (hexDigit (x.toNat % 16))
    have zero := sizes '0'
    rw [next]
    simp only [bytesUpToFour, List.take_succ_cons, List.take_zero, List.map_cons, List.map_nil,
      List.sum_cons, List.sum_nil]
    omega
  have read : hexEscape c.next = .ok (x.toNat, c.next.next.next.next.next) := by
    have four := Json.hexFour?_of_lt control rest
    rw [← next] at four
    unfold hexEscape
    rw [if_neg bytes, four]
  refine ⟨some x, c.next.next.next.next.next, ?_, rfl, behind⟩
  unfold escaped
  rw [ahead]
  simp only [List.cons_append, read]
  rw [if_neg (by omega), if_neg (by omega), x.ofNat_toNat]

/-- A character stands for itself, or behind a backslash stands what is taken for it. -/
theorem escape_cases (x : Char) :
    (escape x = [x] ∧ x ≠ '"' ∧ x ≠ '\\' ∧ ¬ x.toNat < 32) ∨
      ∃ body, escape x = '\\' :: body ∧ ∀ rest, Takes escaped body rest (· = some x) := by
  have ofNat : ∀ {n : Nat}, x.toNat = n → Char.ofNat n = x := by
    rintro n rfl
    exact x.ofNat_toNat
  unfold escape
  split
  · rename_i quotation
    exact Or.inr ⟨_, rfl, takes_letter (by decide) (by rw [quotation]; rfl)⟩
  split
  · rename_i backslash
    exact Or.inr ⟨_, rfl, takes_letter (by decide) (by rw [backslash]; rfl)⟩
  split
  · rename_i backspace
    exact Or.inr ⟨_, rfl, takes_letter (by decide) (by rw [← ofNat backspace]; rfl)⟩
  split
  · rename_i feed
    exact Or.inr ⟨_, rfl, takes_letter (by decide) (by rw [← ofNat feed]; rfl)⟩
  split
  · rename_i line
    exact Or.inr ⟨_, rfl, takes_letter (by decide) (by rw [line]; rfl)⟩
  split
  · rename_i carriage
    exact Or.inr ⟨_, rfl, takes_letter (by decide) (by rw [carriage]; rfl)⟩
  split
  · rename_i tab
    exact Or.inr ⟨_, rfl, takes_letter (by decide) (by rw [tab]; rfl)⟩
  split
  · rename_i control
    exact Or.inr ⟨_, rfl, takes_hexadecimal control⟩
  · rename_i quotation backslash _ _ _ _ _ visible
    exact Or.inl ⟨rfl, quotation, backslash, visible⟩

/-- Escaped characters are read up to the quotation mark, behind those that were read before. -/
theorem takes_stringBody {text : List Char} {fuel : Nat} (enough : text.length < fuel)
    (sofar rest : List Char) : Takes (stringBody fuel (some sofar)) (text.flatMap escape ++ ['"'])
      rest (· = some (String.ofList (sofar.reverse ++ text))) := by
  induction text generalizing fuel sofar with
  | nil =>
      intro c ahead
      obtain ⟨fuel, rfl⟩ := Nat.exists_eq_succ_of_ne_zero (Nat.ne_of_gt enough)
      refine ⟨_, c.next, ?_, rfl, Cursor.rest_next ahead⟩
      unfold stringBody
      rw [ahead]
      simp
  | cons x text inductionHypothesis =>
      intro c ahead
      obtain ⟨fuel, rfl⟩ := Nat.exists_eq_succ_of_ne_zero (Nat.ne_of_gt (Nat.zero_lt_of_lt enough))
      have further := inductionHypothesis (Nat.lt_of_succ_lt_succ enough) (x :: sofar)
      rw [List.reverse_cons, List.append_assoc, List.singleton_append] at further
      rw [List.flatMap_cons, List.append_assoc, List.append_assoc] at ahead
      rcases escape_cases x with ⟨own, quotation, backslash, visible⟩ | ⟨body, own, takes⟩
      · rw [own, List.singleton_append] at ahead
        obtain ⟨a, c', read, result, behind⟩ := further c.next (by
          rw [Cursor.rest_next ahead, List.append_assoc])
        refine ⟨a, c', ?_, result, behind⟩
        unfold stringBody
        rw [ahead]
        simp only [visible, if_false]
        exact read
      · rw [own, List.cons_append] at ahead
        obtain ⟨_, c₁, readOne, rfl, behindOne⟩ := takes _ c.next (Cursor.rest_next ahead)
        obtain ⟨a, c', read, result, behind⟩ := further c₁ (by rw [behindOne, List.append_assoc])
        refine ⟨a, c', ?_, result, behind⟩
        unfold stringBody
        rw [ahead]
        simp only [readOne]
        exact read

theorem length_le_length_escaped (text : List Char) :
    text.length ≤ (text.flatMap escape).length := by
  induction text with
  | nil => exact Nat.le_refl 0
  | cons x text inductionHypothesis =>
      have some : 0 < (escape x).length := by
        rcases escape_cases x with ⟨own, _⟩ | ⟨body, own, _⟩
        · simp [own]
        · simp [own]
      rw [List.flatMap_cons, List.length_append, List.length_cons]
      omega

/-- A quoted string is read behind its opening quotation mark. -/
theorem takes_string (s : String) (rest : List Char) :
    Takes string (s.toList.flatMap escape ++ ['"']) rest (· = some s) := by
  intro c ahead
  have enough : s.toList.length < c.rest.length + 1 := by
    have length := length_le_length_escaped s.toList
    rw [ahead, List.length_append, List.length_append]
    omega
  obtain ⟨a, c', read, result, behind⟩ := takes_stringBody enough [] rest c ahead
  exact ⟨a, c', read, by simpa using result, behind⟩

end Reader
end EventDispatch
