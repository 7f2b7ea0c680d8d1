import EventDispatch.Proofs.Json.Readable
import EventDispatch.Proofs.Json.Reading
/-!
Printed JSON can be read back.

Purpose: the compact text of a value is read to its end, as a written form that spells the value:
the same kinds, strings and names at every depth. What numbers are read as is left open.

Main exports: `Written.Spells`, `Reader.takes_value`, `Written.parse_compact`.
-/

namespace EventDispatch

namespace Written

mutual
/-- A written form has the structure of a value, its strings and its names. -/
def Spells : Written → Json → Prop
  | .null, .null => True
  | .bool a, .bool b => a = b
  | .number _, .number _ => True
  | .string a, .string b => a = some b
  | .array ws, .array vs => SpellsItems ws vs
  | .object ws, .object vs => SpellsFields ws vs
  | _, _ => False
/-- Written items spell items one by one. -/
def SpellsItems : List Written → List Json → Prop
  | [], [] => True
  | w :: ws, v :: vs => Spells w v ∧ SpellsItems ws vs
  | _, _ => False
/-- Written fields spell fields one by one. -/
def SpellsFields : List (Option String × Written) → List (String × Json) → Prop
  | [], [] => True
  | (a, w) :: ws, (b, v) :: vs => a = some b ∧ Spells w v ∧ SpellsFields ws vs
  | _, _ => False
end

end Written

namespace Reader

open Json (furtherItems furtherFields quoteChars escape)
open Written (Spells SpellsItems SpellsFields)

theorem takes_word (w : Written) (letters rest : List Char) :
    Takes (word w letters) letters rest (· = w) := by
  induction letters with
  | nil =>
      intro c ahead
      exact ⟨w, c, rfl, rfl, ahead⟩
  | cons x letters inductionHypothesis =>
      intro c ahead
      obtain ⟨a, c', read, result, behind⟩ := inductionHypothesis c.next (Cursor.rest_next ahead)
      refine ⟨a, c', ?_, result, behind⟩
      unfold word
      rw [ahead]
      simp only [List.cons_append, if_true]
      exact read

/-- What comes behind items or fields closes a value. -/
theorem closes_furtherItems (vs : List Json) (rest : List Char) :
    Closes (furtherItems vs ++ ']' :: rest) := by
  cases vs with
  | nil => rintro x ⟨⟩; exact Or.inr (Or.inl rfl)
  | cons v vs => rintro x ⟨⟩; exact Or.inl rfl

theorem closes_furtherFields (fs : List (String × Json)) (rest : List Char) :
    Closes (furtherFields fs ++ '\x7d' :: rest) := by
  cases fs with
  | nil => rintro x ⟨⟩; exact Or.inr (Or.inr rfl)
  | cons f fs => rintro x ⟨⟩; exact Or.inl rfl

theorem isBlank_of_isDigit {x : Char} (digit : x.isDigit = true) :
    Cursor.isBlank x = false := by
  apply Bool.eq_false_iff.mpr
  intro blank
  simp only [Cursor.isBlank, Bool.or_eq_true, beq_iff_eq] at blank
  rcases blank with ((rfl | rfl) | rfl) | rfl <;> exact nomatch digit

/-- The text of a value begins with no blank and with no closing bracket. -/
theorem head_compact (v : Json) :
    ∃ x xs, v.compact.toList = x :: xs ∧ Cursor.isBlank x = false ∧ x ≠ ']' := by
  obtain ⟨x, xs, text, kind, open_⟩ := Json.kindOf_head v
  refine ⟨x, xs, text, ?_, open_⟩
  cases v with
  | number n =>
      obtain ⟨y, ys, own, mark⟩ := n.head_text
      have same : x = y := (List.cons.inj (text.symm.trans own)).1
      rcases mark with rfl | digit
      · rw [same]
        rfl
      · exact isBlank_of_isDigit (same ▸ digit)
  | _ =>
      apply Bool.eq_false_iff.mpr
      intro blank
      simp only [Cursor.isBlank, Bool.or_eq_true, beq_iff_eq] at blank
      rcases blank with ((rfl | rfl) | rfl) | rfl <;> exact nomatch kind

section Values

variable {fuel depth : Nat} {text more rest : List Char} {P : Written → Prop}
  {Q : List Written → Prop} {R : List (Option String × Written) → Prop}

/-- A word is read as a value if its first letter makes the reader expect the other letters. -/
theorem takes_word_value {x : Char} {letters : List Char} {w : Written}
    (plain : Cursor.isBlank x = false)
    (opens : ∀ {c : Cursor} {more : List Char}, c.skipBlanks = c → c.rest = x :: more →
      value (fuel + 1) depth c = word w letters c.next) :
    Takes (value (fuel + 1) depth) (x :: letters) rest (· = w) := by
  intro c ahead
  obtain ⟨a, c', read, result⟩ := takes_word w letters rest c.next (Cursor.rest_next ahead)
  refine ⟨a, c', ?_, result⟩
  rw [opens (Cursor.skipBlanks_of_rest ahead plain) ahead]
  exact read

theorem takes_null : Takes (value (fuel + 1) depth) ['n', 'u', 'l', 'l'] rest (· = .null) :=
  takes_word_value rfl fun {c more} plain ahead => by
    unfold value
    simp only [plain, ahead]

theorem takes_true :
    Takes (value (fuel + 1) depth) ['t', 'r', 'u', 'e'] rest (· = .bool true) :=
  takes_word_value rfl fun {c more} plain ahead => by
    unfold value
    simp only [plain, ahead]

theorem takes_false :
    Takes (value (fuel + 1) depth) ['f', 'a', 'l', 's', 'e'] rest (· = .bool false) :=
  takes_word_value rfl fun {c more} plain ahead => by
    unfold value
    simp only [plain, ahead]

/-- A quoted string is read as a value. -/
theorem takes_quoted (s : String) :
    Takes (value (fuel + 1) depth) (quoteChars s) rest (· = .string (some s)) := by
  intro c ahead
  obtain ⟨_, c', read, rfl, behind⟩ := takes_string s rest c.next (Cursor.rest_next ahead)
  refine ⟨_, c', ?_, rfl, behind⟩
  unfold value
  rw [Cursor.skipBlanks_of_rest ahead rfl]
  simp only [ahead, quoteChars, List.cons_append, read]

/-- The text of a number is read as a value. -/
theorem takes_numeral (n : Number) (closes : Closes rest) :
    Takes (value (fuel + 1) depth) n.text.toList rest IsNumber := by
  intro c ahead
  obtain ⟨text, form, minus | plain⟩ := n.text_form
  · rw [minus] at ahead
    obtain ⟨a, c', read, result⟩ :=
      takes_number true form closes c.next (Cursor.rest_next ahead)
    refine ⟨a, c', ?_, result⟩
    unfold value
    rw [Cursor.skipBlanks_of_rest ahead rfl]
    simp only [ahead, List.cons_append]
    exact read
  · rw [plain] at ahead
    obtain ⟨a, c', read, result⟩ := takes_number false form closes c ahead
    obtain ⟨x, xs, rfl, digit⟩ := form.head
    refine ⟨a, c', ?_, result⟩
    unfold value
    rw [Cursor.skipBlanks_of_rest ahead (isBlank_of_isDigit digit)]
    -- A digit is none of the characters that other values begin with.
    have other : ∀ y : Char, y.isDigit = false → x ≠ y := by
      rintro y noDigit rfl
      rw [noDigit] at digit
      exact Bool.false_ne_true digit
    have null := other 'n' rfl
    have true_ := other 't' rfl
    have false_ := other 'f' rfl
    have minus := other '-' rfl
    have quotation := other '"' rfl
    have bracket := other '[' rfl
    have brace := other '\x7b' rfl
    simp only [ahead, List.cons_append, digit, if_true]
    exact read

/-- A list is read as a value if its items are read behind the bracket. -/
theorem takes_array (inner : Takes (items fuel (depth + 1) true) text rest Q) :
    Takes (value (fuel + 1) depth) ('[' :: text) rest fun w => ∃ ws, w = .array ws ∧ Q ws := by
  intro c ahead
  have entered : (enter depth c).next.rest = text ++ rest := by
    apply Cursor.rest_next (x := '[')
    unfold enter
    split <;> exact ahead
  obtain ⟨ws, c', read, result, behind⟩ := inner _ entered
  refine ⟨_, c', ?_, ⟨ws, rfl, result⟩, behind⟩
  unfold value
  rw [Cursor.skipBlanks_of_rest ahead rfl]
  simp only [ahead, List.cons_append, read]

/-- An object is read as a value if its fields are read behind the brace. -/
theorem takes_object (inner : Takes (fields fuel (depth + 1) true) text rest R) :
    Takes (value (fuel + 1) depth) ('\x7b' :: text) rest fun w => ∃ ws, w = .object ws ∧ R ws := by
  intro c ahead
  have entered : (enter depth c).next.rest = text ++ rest := by
    apply Cursor.rest_next (x := '\x7b')
    unfold enter
    split <;> exact ahead
  obtain ⟨ws, c', read, result, behind⟩ := inner _ entered
  refine ⟨_, c', ?_, ⟨ws, rfl, result⟩, behind⟩
  unfold value
  rw [Cursor.skipBlanks_of_rest ahead rfl]
  simp only [ahead, List.cons_append, read]

/-- A closing bracket ends the items. -/
theorem takes_items_end {first : Bool} :
    Takes (items (fuel + 1) depth first) [']'] rest (· = []) := by
  intro c ahead
  refine ⟨[], c.next, ?_, rfl, Cursor.rest_next ahead⟩
  unfold items
  rw [Cursor.skipBlanks_of_rest ahead rfl]
  simp only [ahead, List.cons_append]

/-- An item is read, and then those behind it. -/
theorem takes_itemsFrom (one : Takes (value fuel depth) text (more ++ rest) P)
    (others : Takes (items fuel depth false) more rest Q) :
    Takes (itemsFrom (fuel + 1) depth) (text ++ more) rest
      fun ws => ∃ w ws', ws = w :: ws' ∧ P w ∧ Q ws' := by
  intro c ahead
  obtain ⟨w, c₁, readOne, resultOne, behindOne⟩ := one c (by rw [ahead, List.append_assoc])
  obtain ⟨ws, c', read, result, behind⟩ := others c₁ behindOne
  refine ⟨_, c', ?_, ⟨w, ws, rfl, resultOne, result⟩, behind⟩
  unfold itemsFrom
  simp only [readOne, read]

theorem takes_items_first (begins : ∃ x xs, text = x :: xs ∧ Cursor.isBlank x = false ∧ x ≠ ']')
    (takes : Takes (itemsFrom fuel depth) text rest Q) :
    Takes (items (fuel + 1) depth true) text rest Q := by
  intro c ahead
  obtain ⟨ws, c', read, result⟩ := takes c ahead
  obtain ⟨x, xs, rfl, plain, open_⟩ := begins
  refine ⟨ws, c', ?_, result⟩
  unfold items
  rw [Cursor.skipBlanks_of_rest ahead plain]
  simp only [ahead, List.cons_append, if_true]
  exact read

theorem takes_items_further (begins : ∃ x xs, text = x :: xs ∧ Cursor.isBlank x = false ∧ x ≠ ']')
    (takes : Takes (itemsFrom fuel depth) text rest Q) :
    Takes (items (fuel + 1) depth false) (',' :: text) rest Q := by
  intro c ahead
  obtain ⟨x, xs, rfl, plain, open_⟩ := begins
  have next : c.next.rest = x :: (xs ++ rest) := Cursor.rest_next ahead
  obtain ⟨ws, c', read, result⟩ := takes c.next next
  refine ⟨ws, c', ?_, result⟩
  unfold items
  rw [Cursor.skipBlanks_of_rest ahead rfl]
  simp only [ahead, List.cons_append, Bool.false_eq_true, if_false]
  rw [Cursor.skipBlanks_of_rest next plain]
  simp only [next]
  exact read

/-- A closing brace ends the fields. -/
theorem takes_fields_end {first : Bool} :
    Takes (fields (fuel + 1) depth first) ['\x7d'] rest (· = []) := by
  intro c ahead
  refine ⟨[], c.next, ?_, rfl, Cursor.rest_next ahead⟩
  unfold fields
  rw [Cursor.skipBlanks_of_rest ahead rfl]
  simp only [ahead, List.cons_append]

/-- A field is read, from the quotation mark of its name, and then those behind it. -/
theorem takes_fieldsFrom {name : String} (one : Takes (value fuel depth) text (more ++ rest) P)
    (others : Takes (fields fuel depth false) more rest R) :
    Takes (fieldsFrom (fuel + 1) depth) (quoteChars name ++ ':' :: (text ++ more)) rest
      fun ws => ∃ w ws', ws = (some name, w) :: ws' ∧ P w ∧ R ws' := by
  intro c ahead
  rw [quoteChars, List.append_assoc, List.cons_append] at ahead
  obtain ⟨_, c₁, readName, rfl, behindName⟩ :=
    takes_string name (':' :: (text ++ more) ++ rest) c.next (Cursor.rest_next ahead)
  obtain ⟨w, c₂, readOne, resultOne, behindOne⟩ := one c₁.next (by
    rw [Cursor.rest_next behindName, List.append_eq, List.append_assoc])
  obtain ⟨ws, c', read, result, behind⟩ := others c₂ behindOne
  refine ⟨_, c', ?_, ⟨w, ws, rfl, resultOne, result⟩, behind⟩
  unfold fieldsFrom
  simp only [readName]
  rw [Cursor.skipBlanks_of_rest behindName rfl]
  simp only [behindName, List.cons_append, readOne, read]

theorem takes_fields_first {name : String}
    (takes : Takes (fieldsFrom fuel depth) (quoteChars name ++ text) rest R) :
    Takes (fields (fuel + 1) depth true) (quoteChars name ++ text) rest R := by
  intro c ahead
  obtain ⟨ws, c', read, result⟩ := takes c ahead
  refine ⟨ws, c', ?_, result⟩
  unfold fields
  rw [Cursor.skipBlanks_of_rest ahead rfl]
  simp only [ahead, quoteChars, List.cons_append, if_true]
  exact read

theorem takes_fields_further {name : String}
    (takes : Takes (fieldsFrom fuel depth) (quoteChars name ++ text) rest R) :
    Takes (fields (fuel + 1) depth false) (',' :: (quoteChars name ++ text)) rest R := by
  intro c ahead
  have next := Cursor.rest_next ahead
  obtain ⟨ws, c', read, result⟩ := takes c.next next
  refine ⟨ws, c', ?_, result⟩
  unfold fields
  rw [Cursor.skipBlanks_of_rest ahead rfl]
  simp only [ahead, List.cons_append, Bool.false_eq_true, if_false]
  rw [Cursor.skipBlanks_of_rest next rfl]
  simp only [next, quoteChars, List.cons_append]
  exact read

end Values

theorem Takes.imp {α : Type} {read : Cursor → ReadResult α} {text rest : List Char}
    {P Q : α → Prop} (takes : Takes read text rest P) (implies : ∀ a, P a → Q a) :
    Takes read text rest Q := by
  intro c ahead
  obtain ⟨a, c', done, result, behind⟩ := takes c ahead
  exact ⟨a, c', done, implies a result, behind⟩

/-- Items are read if the first one is, and those behind it are. -/
theorem takes_items_cons {v : Json} {vs : List Json} {fuel depth : Nat} {rest : List Char}
    (one : Takes (value fuel depth) v.compact.toList (furtherItems vs ++ ']' :: rest) (Spells · v))
    (others : Takes (items fuel depth false) (furtherItems vs ++ [']']) rest (SpellsItems · vs)) :
    Takes (itemsFrom (fuel + 1) depth) (v.compact.toList ++ (furtherItems vs ++ [']'])) rest
      (SpellsItems · (v :: vs)) := by
  have text : furtherItems vs ++ ']' :: rest = furtherItems vs ++ [']'] ++ rest := by simp
  rw [text] at one
  refine (takes_itemsFrom one others).imp ?_
  rintro _ ⟨w, ws, rfl, first, later⟩
  exact ⟨first, later⟩

theorem takes_fields_cons {name : String} {v : Json} {fs : List (String × Json)}
    {fuel depth : Nat} {rest : List Char}
    (one : Takes (value fuel depth) v.compact.toList (furtherFields fs ++ '\x7d' :: rest)
      (Spells · v))
    (others : Takes (fields fuel depth false) (furtherFields fs ++ ['\x7d']) rest
      (SpellsFields · fs)) :
    Takes (fieldsFrom (fuel + 1) depth)
      (quoteChars name ++ ':' :: (v.compact.toList ++ (furtherFields fs ++ ['\x7d']))) rest
      (SpellsFields · ((name, v) :: fs)) := by
  have text : furtherFields fs ++ '\x7d' :: rest = furtherFields fs ++ ['\x7d'] ++ rest := by simp
  rw [text] at one
  refine (takes_fieldsFrom one others).imp ?_
  rintro _ ⟨w, ws, rfl, first, later⟩
  exact ⟨rfl, first, later⟩

theorem length_compact_pos (v : Json) : 0 < v.compact.toList.length := by
  obtain ⟨x, xs, text, -⟩ := head_compact v
  simp [text]

/-- Fuel for the text of a value is fuel for its first character. -/
theorem exists_fuel {v : Json} {fuel : Nat} (enough : 3 * v.compact.toList.length ≤ fuel) :
    ∃ k, fuel = k + 1 := by
  have some := length_compact_pos v
  exact ⟨fuel - 1, by omega⟩

/-- A list of items is read as a value. -/
theorem takes_list {vs : List Json} {fuel depth : Nat} {text rest : List Char}
    (inner : Takes (items fuel (depth + 1) true) text rest (SpellsItems · vs)) :
    Takes (value (fuel + 1) depth) ('[' :: text) rest (Spells · (.array vs)) := by
  refine (takes_array inner).imp ?_
  rintro _ ⟨ws, rfl, spelled⟩
  exact spelled

/-- A list of fields is read as a value. -/
theorem takes_mapping {fs : List (String × Json)} {fuel depth : Nat} {text rest : List Char}
    (inner : Takes (fields fuel (depth + 1) true) text rest (SpellsFields · fs)) :
    Takes (value (fuel + 1) depth) ('\x7b' :: text) rest (Spells · (.object fs)) := by
  refine (takes_object inner).imp ?_
  rintro _ ⟨ws, rfl, spelled⟩
  exact spelled

theorem begins_compact (v : Json) (text : List Char) :
    ∃ x xs, v.compact.toList ++ text = x :: xs ∧ Cursor.isBlank x = false ∧ x ≠ ']' := by
  obtain ⟨x, xs, own, plain, open_⟩ := head_compact v
  exact ⟨x, xs ++ text, by rw [own, List.cons_append], plain, open_⟩

mutual
/-- The text of a value is read to its end. -/
theorem takes_value : ∀ (v : Json) (fuel depth : Nat) (rest : List Char),
    3 * v.compact.toList.length ≤ fuel → Closes rest →
      Takes (value fuel depth) v.compact.toList rest (Spells · v)
  | .null => by
      intro fuel depth rest enough _
      obtain ⟨fuel, rfl⟩ := exists_fuel enough
      refine takes_null.imp ?_
      rintro _ rfl
      trivial
  | .bool true => by
      intro fuel depth rest enough _
      obtain ⟨fuel, rfl⟩ := exists_fuel enough
      refine takes_true.imp ?_
      rintro _ rfl
      rfl
  | .bool false => by
      intro fuel depth rest enough _
      obtain ⟨fuel, rfl⟩ := exists_fuel enough
      refine takes_false.imp ?_
      rintro _ rfl
      rfl
  | .number n => by
      intro fuel depth rest enough closes
      obtain ⟨fuel, rfl⟩ := exists_fuel enough
      refine (takes_numeral n closes).imp ?_
      rintro _ ⟨m, rfl⟩
      trivial
  | .string s => by
      intro fuel depth rest enough _
      obtain ⟨fuel, rfl⟩ := exists_fuel enough
      have text : (Json.string s).compact.toList = quoteChars s := String.toList_ofList
      rw [text]
      refine (takes_quoted s).imp ?_
      rintro _ rfl
      rfl
  | .array [] => by
      intro fuel depth rest enough _
      have text : (Json.array []).compact.toList = ['[', ']'] := rfl
      rw [text] at enough ⊢
      obtain ⟨fuel, rfl⟩ : ∃ k, fuel = k + 2 := ⟨fuel - 2, by simp at enough; omega⟩
      apply takes_list
      refine takes_items_end.imp ?_
      rintro _ rfl
      trivial
  | .array (v :: vs) => by
      intro fuel depth rest enough _
      have text : (Json.array (v :: vs)).compact.toList
          = '[' :: (v.compact.toList ++ (furtherItems vs ++ [']'])) := by
        rw [Json.toList_array, Json.toList_items, List.append_assoc]
      have some := length_compact_pos v
      rw [text] at enough ⊢
      simp only [List.length_cons, List.length_append, List.length_nil] at enough
      obtain ⟨fuel, rfl⟩ : ∃ k, fuel = k + 3 := ⟨fuel - 3, by omega⟩
      apply takes_list
      apply takes_items_first (begins_compact v _)
      exact takes_items_cons (takes_value v _ _ _ (by omega) (closes_furtherItems vs rest))
        (takes_furtherItems vs _ _ _ (by omega))
  | .object [] => by
      intro fuel depth rest enough _
      have text : (Json.object []).compact.toList = ['\x7b', '\x7d'] := rfl
      rw [text] at enough ⊢
      obtain ⟨fuel, rfl⟩ : ∃ k, fuel = k + 2 := ⟨fuel - 2, by simp at enough; omega⟩
      apply takes_mapping
      refine takes_fields_end.imp ?_
      rintro _ rfl
      trivial
  | .object ((name, v) :: fs) => by
      intro fuel depth rest enough _
      have text : (Json.object ((name, v) :: fs)).compact.toList = '\x7b' :: (quoteChars name
          ++ ':' :: (v.compact.toList ++ (furtherFields fs ++ ['\x7d']))) := by
        rw [Json.toList_object, Json.toList_fields]
        simp
      have some := length_compact_pos v
      rw [text] at enough ⊢
      simp only [List.length_cons, List.length_append, List.length_nil] at enough
      obtain ⟨fuel, rfl⟩ : ∃ k, fuel = k + 3 := ⟨fuel - 3, by omega⟩
      apply takes_mapping
      apply takes_fields_first
      exact takes_fields_cons (takes_value v _ _ _ (by omega) (closes_furtherFields fs rest))
        (takes_furtherFields fs _ _ _ (by omega))
/-- The items behind others are read up to the closing bracket. -/
theorem takes_furtherItems : ∀ (vs : List Json) (fuel depth : Nat) (rest : List Char),
    3 * (furtherItems vs).length + 2 ≤ fuel →
      Takes (items fuel depth false) (furtherItems vs ++ [']']) rest (SpellsItems · vs)
  | [] => by
      intro fuel depth rest enough
      obtain ⟨fuel, rfl⟩ : ∃ k, fuel = k + 1 := ⟨fuel - 1, by omega⟩
      refine takes_items_end.imp ?_
      rintro _ rfl
      trivial
  | v :: vs => by
      intro fuel depth rest enough
      have text : furtherItems (v :: vs) ++ [']']
          = ',' :: (v.compact.toList ++ (furtherItems vs ++ [']'])) := by
        simp [furtherItems]
      simp only [furtherItems, List.length_cons, List.length_append] at enough
      obtain ⟨fuel, rfl⟩ : ∃ k, fuel = k + 2 := ⟨fuel - 2, by omega⟩
      rw [text]
      apply takes_items_further (begins_compact v _)
      exact takes_items_cons (takes_value v _ _ _ (by omega) (closes_furtherItems vs rest))
        (takes_furtherItems vs _ _ _ (by omega))
/-- The fields behind others are read up to the closing brace. -/
theorem takes_furtherFields : ∀ (fs : List (String × Json)) (fuel depth : Nat) (rest : List Char),
    3 * (furtherFields fs).length + 2 ≤ fuel →
      Takes (fields fuel depth false) (furtherFields fs ++ ['\x7d']) rest (SpellsFields · fs)
  | [] => by
      intro fuel depth rest enough
      obtain ⟨fuel, rfl⟩ : ∃ k, fuel = k + 1 := ⟨fuel - 1, by omega⟩
      refine takes_fields_end.imp ?_
      rintro _ rfl
      trivial
  | (name, v) :: fs => by
      intro fuel depth rest enough
      have text : furtherFields ((name, v) :: fs) ++ ['\x7d'] = ',' :: (quoteChars name
          ++ ':' :: (v.compact.toList ++ (furtherFields fs ++ ['\x7d']))) := by
        simp [furtherFields]
      simp only [furtherFields, List.length_cons, List.length_append] at enough
      obtain ⟨fuel, rfl⟩ : ∃ k, fuel = k + 2 := ⟨fuel - 2, by omega⟩
      rw [text]
      apply takes_fields_further
      exact takes_fields_cons (takes_value v _ _ _ (by omega) (closes_furtherFields fs rest))
        (takes_furtherFields fs _ _ _ (by omega))
end

end Reader

/-- The printed text of a value is read as a written form that spells the value. -/
theorem Written.parse_compact (v : Json) :
    ∃ w, Written.parse v.compact = .ok w ∧ w.Spells v := by
  have nothing : Reader.Closes [] := by
    rintro x ⟨⟩
  have takes : Reader.Takes (Reader.value (3 * v.compact.toList.length + 3) 0) v.compact.toList []
      (Spells · v) := Reader.takes_value v _ _ _ (by omega) nothing
  obtain ⟨w, c, read, spelled, behind⟩ :=
    takes (Cursor.start v.compact.toList) (List.append_nil _).symm
  have ended : c.skipBlanks = c := by
    apply Cursor.skipBlanks_eq
    rw [behind]
    rintro x ⟨⟩
  refine ⟨w, ?_, spelled⟩
  unfold Written.parse Reader.document
  simp only [read, ended, behind]
  rfl

end EventDispatch
