import EventDispatch.Json.Quoted
import EventDispatch.Json.Reader
/-!
Quoted strings end where they end.

Purpose: the written form of a character can be read back from the characters, whatever follows it,
so a string is known from its written form and no string's form goes on where another's has ended.

Main exports: `Json.unescape`, `Json.unescape_escape`, `Json.quoteChars_split`.
-/

namespace EventDispatch.Json

open Reader (hexValue? hexFour? simpleEscape?)

/-- The character whose written form comes first, and what follows it. -/
def unescape : List Char → Option (Char × List Char)
  | '\\' :: 'u' :: rest => (hexFour? rest).map fun n => (Char.ofNat n, rest.drop 4)
  | '\\' :: c :: rest => (simpleEscape? c).map fun c => (c, rest)
  | c :: rest => some (c, rest)
  | [] => none

theorem hexValue?_hexDigit : ∀ n < 16, hexValue? (hexDigit n) = some n := by decide

/-- The two last digits of a short hexadecimal escape are those of the character. -/
theorem hexFour?_of_lt {n : Nat} (small : n < 32) (rest : List Char) :
    hexFour? ('0' :: '0' :: hexDigit (n / 16) :: hexDigit (n % 16) :: rest) = some n := by
  have zero : hexValue? '0' = some 0 := rfl
  have first := hexValue?_hexDigit (n / 16) (by omega)
  have second := hexValue?_hexDigit (n % 16) (by omega)
  simp only [hexFour?, zero, first, second, Option.bind_eq_bind, Option.bind_some, Option.pure_def,
    Option.some.injEq]
  omega

theorem unescape_of_ne {c : Char} (plain : c ≠ '\\') (rest : List Char) :
    unescape (c :: rest) = some (c, rest) := by
  unfold unescape
  split <;> simp_all

/-- The written form of a character can be read back, whatever follows. -/
theorem unescape_escape (c : Char) (rest : List Char) :
    unescape (escape c ++ rest) = some (c, rest) := by
  have ofNat : ∀ {n : Nat}, c.toNat = n → c = Char.ofNat n := by
    rintro n rfl
    exact c.ofNat_toNat.symm
  unfold escape
  split
  · rename_i quotation
    subst quotation
    rfl
  split
  · rename_i backslash
    subst backslash
    rfl
  split
  · rename_i backspace
    rw [ofNat backspace]
    rfl
  split
  · rename_i feed
    rw [ofNat feed]
    rfl
  split
  · rename_i line
    subst line
    rfl
  split
  · rename_i carriage
    subst carriage
    rfl
  split
  · rename_i tab
    subst tab
    rfl
  split
  · rename_i control
    have four := hexFour?_of_lt control rest
    simp only [List.cons_append, List.nil_append, unescape, four, Option.map_some,
      List.drop_succ_cons, List.drop_zero, c.ofNat_toNat]
  · rename_i backslash _ _ _ _ _ _
    exact unescape_of_ne backslash rest

/-- No written form of a character begins with a quotation mark. -/
theorem escape_ne_quotation (c : Char) (front back : List Char) :
    escape c ++ front ≠ '"' :: back := by
  intro same
  have read := unescape_escape c front
  rw [same, unescape_of_ne (by decide)] at read
  have character : c = '"' := by simpa using (congrArg (Option.map Prod.fst) read).symm
  subst character
  exact absurd same (by simp [escape])

/-- Escaped characters end at the first quotation mark that is not escaped. -/
theorem escaped_split {s t front back : List Char}
    (same : s.flatMap escape ++ '"' :: front = t.flatMap escape ++ '"' :: back) :
    s = t ∧ front = back := by
  induction s generalizing t with
  | nil =>
      cases t with
      | nil => simpa using same
      | cons d t =>
          rw [List.flatMap_cons, List.append_assoc] at same
          exact absurd same.symm (escape_ne_quotation _ _ _)
  | cons c s inductionHypothesis =>
      cases t with
      | nil =>
          rw [List.flatMap_cons, List.append_assoc] at same
          exact absurd same (escape_ne_quotation _ _ _)
      | cons d t =>
          rw [List.flatMap_cons, List.append_assoc, List.flatMap_cons, List.append_assoc] at same
          have read := unescape_escape c (s.flatMap escape ++ '"' :: front)
          rw [same, unescape_escape] at read
          simp only [Option.some.injEq, Prod.mk.injEq] at read
          obtain ⟨tails, rests⟩ := inductionHypothesis read.2.symm
          exact ⟨by rw [read.1, tails], rests⟩

/-- A quoted string is known from the text that begins with it, and so is what follows it. -/
theorem quoteChars_split {s t : String} {front back : List Char}
    (same : quoteChars s ++ front = quoteChars t ++ back) : s = t ∧ front = back := by
  simp only [quoteChars, List.cons_append, List.append_assoc, List.cons.injEq, true_and,
    List.nil_append] at same
  obtain ⟨characters, rests⟩ := escaped_split same
  exact ⟨String.toList_inj.mp characters, rests⟩

end EventDispatch.Json
