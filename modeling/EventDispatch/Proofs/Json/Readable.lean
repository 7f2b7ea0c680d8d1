import EventDispatch.Json.Printer
import EventDispatch.Proofs.Json.Numeral
import EventDispatch.Proofs.Json.Quoted
/-!
Unique readability of JSON text.

Purpose: the compact text of a value can be read in one way only. Its first character tells the kind
of the value; strings end at their closing quotation mark, arrays and objects at their closing
brackets, and a number where no character of numbers follows. So a text that begins with a value's
text begins with no other value's, and different values have different texts.

Main exports: `Json.kindOf_head`, `Json.compact_split`, `Json.compact_injective`.
-/

namespace EventDispatch.Json

open Numeral

/-- The kind of a value whose text begins with a character. -/
def kindOf (c : Char) : Nat :=
  if c = 'n' then 0 else if c = 't' ∨ c = 'f' then 1 else if c = '"' then 3
  else if c = '[' then 4 else if c = '\x7b' then 5 else 2

theorem toList_array (items : List Json) : (compact (.array items)).toList
    = '[' :: ((String.intercalate "," (compactItems items)).toList ++ [']']) := by
  simp [compact]

theorem toList_object (fields : List (String × Json)) : (compact (.object fields)).toList
    = '\x7b' :: ((String.intercalate "," (compactFields fields)).toList ++ ['\x7d']) := by
  simp [compact]

/-- The first character of a text tells the kind of the value; no text begins with a closing
bracket. -/
theorem kindOf_head (v : Json) :
    ∃ c rest, v.compact.toList = c :: rest ∧ kindOf c = v.ctorIdx ∧ c ≠ ']' := by
  cases v with
  | null => exact ⟨'n', _, rfl, rfl, by decide⟩
  | bool b =>
      cases b with
      | false => exact ⟨'f', _, rfl, rfl, by decide⟩
      | true => exact ⟨'t', _, rfl, rfl, by decide⟩
  | number n =>
      obtain ⟨c, rest, text, mark⟩ := n.head_text
      have letters : ∀ d : Char, d ≠ '-' → d.isDigit = false → c ≠ d := by
        rintro d sign digit rfl
        rcases mark with minus | isDigit
        · exact sign minus
        · rw [digit] at isDigit
          exact absurd isDigit (by simp)
      have number : kindOf c = 2 := by simp [kindOf, letters]
      exact ⟨c, rest, text, number, letters ']' (by decide) rfl⟩
  | string s => exact ⟨'"', _, String.toList_ofList, rfl, by decide⟩
  | array items => exact ⟨'[', _, toList_array items, rfl, by decide⟩
  | object fields => exact ⟨'\x7b', _, toList_object fields, rfl, by decide⟩

/-- Texts that begin alike are texts of one kind of value. -/
theorem ctorIdx_eq_of_append {v w : Json} {front back : List Char}
    (same : v.compact.toList ++ front = w.compact.toList ++ back) : v.ctorIdx = w.ctorIdx := by
  obtain ⟨c, rest, textV, kindV, _⟩ := kindOf_head v
  obtain ⟨d, rest', textW, kindW, _⟩ := kindOf_head w
  rw [textV, textW, List.cons_append, List.cons_append] at same
  rw [← kindV, ← kindW, (List.cons.inj same).1]

/-! ### Items and fields -/

/-- The text of items that follow others. -/
def furtherItems : List Json → List Char
  | [] => []
  | v :: vs => ',' :: (v.compact.toList ++ furtherItems vs)

/-- The text of fields that follow others. -/
def furtherFields : List (String × Json) → List Char
  | [] => []
  | (name, v) :: fs => ',' :: (quoteChars name ++ ':' :: (v.compact.toList ++ furtherFields fs))

theorem toList_items (v : Json) (vs : List Json) :
    (String.intercalate "," (compactItems (v :: vs))).toList
      = v.compact.toList ++ furtherItems vs := by
  induction vs generalizing v with
  | nil => simp [compactItems, furtherItems]
  | cons w vs inductionHypothesis =>
      have rest := inductionHypothesis w
      simp only [String.toList_intercalate, compactItems, List.map_cons] at rest ⊢
      rw [List.intercalate_cons_cons, rest]
      simp [furtherItems]

theorem toList_fields (name : String) (v : Json) (fs : List (String × Json)) :
    (String.intercalate "," (compactFields ((name, v) :: fs))).toList
      = quoteChars name ++ ':' :: (v.compact.toList ++ furtherFields fs) := by
  have first : ∀ (name : String) (v : Json), (quote name ++ ":" ++ v.compact).toList
      = quoteChars name ++ ':' :: v.compact.toList := by
    intro name v
    simp [quote]
  induction fs generalizing name v with
  | nil => simp [compactFields, furtherFields, first]
  | cons field fs inductionHypothesis =>
      obtain ⟨name', w⟩ := field
      have rest := inductionHypothesis name' w
      simp only [String.toList_intercalate, compactFields, List.map_cons] at rest ⊢
      rw [List.intercalate_cons_cons, rest, first]
      simp [furtherFields]

/-- The items of an array as if they followed others, up to the closing bracket. -/
theorem furtherItems_of_array {vs ws : List Json} {front back : List Char}
    (same : (compact (.array vs)).toList ++ front = (compact (.array ws)).toList ++ back) :
    furtherItems vs ++ ']' :: front = furtherItems ws ++ ']' :: back := by
  simp only [toList_array, List.cons_append, List.append_assoc, List.cons.injEq, true_and,
    List.nil_append] at same
  have closed : ∀ (v : Json) (rest other : List Char), v.compact.toList ++ rest ≠ ']' :: other := by
    intro v rest other bracket
    obtain ⟨c, cs, text, _, open_⟩ := kindOf_head v
    rw [text, List.cons_append] at bracket
    exact open_ (List.cons.inj bracket).1
  cases vs with
  | nil =>
      cases ws with
      | nil => simpa [compactItems, furtherItems] using same
      | cons w ws =>
          rw [toList_items, List.append_assoc] at same
          exact absurd same.symm (closed w _ _)
  | cons v vs =>
      cases ws with
      | nil =>
          rw [toList_items, List.append_assoc] at same
          exact absurd same (closed v _ _)
      | cons w ws =>
          rw [toList_items, toList_items] at same
          simp only [furtherItems, List.cons_append]
          rw [same]

/-- The fields of an object as if they followed others, up to the closing brace. -/
theorem furtherFields_of_object {fs gs : List (String × Json)} {front back : List Char}
    (same : (compact (.object fs)).toList ++ front = (compact (.object gs)).toList ++ back) :
    furtherFields fs ++ '\x7d' :: front = furtherFields gs ++ '\x7d' :: back := by
  simp only [toList_object, List.cons_append, List.append_assoc, List.cons.injEq, true_and,
    List.nil_append] at same
  cases fs with
  | nil =>
      cases gs with
      | nil => simpa [compactFields, furtherFields] using same
      | cons field gs =>
          rw [toList_fields] at same
          simp [compactFields, quoteChars] at same
  | cons field fs =>
      cases gs with
      | nil =>
          rw [toList_fields] at same
          simp [compactFields, quoteChars] at same
      | cons other gs =>
          rw [toList_fields, toList_fields] at same
          simp only [furtherFields, List.cons_append]
          rw [same]

/-- What follows a value inside an array is no part of a number. -/
theorem stops_furtherItems (vs : List Json) (rest : List Char) :
    Stops (furtherItems vs ++ ']' :: rest) := by
  cases vs with
  | nil => simp [Stops, furtherItems, isMark]
  | cons v vs => simp [Stops, furtherItems, isMark]

theorem stops_furtherFields (fs : List (String × Json)) (rest : List Char) :
    Stops (furtherFields fs ++ '\x7d' :: rest) := by
  cases fs with
  | nil => simp [Stops, furtherFields, isMark]
  | cons field fs => simp [Stops, furtherFields, isMark]

/-! ### Reading -/

mutual
/-- A value is known from the text that begins with it, and so is what follows it. -/
theorem compact_split : ∀ {v w : Json} {front back : List Char}, Stops front → Stops back →
    v.compact.toList ++ front = w.compact.toList ++ back → v = w ∧ front = back
  | .null, w, front, back, _, _, same => by
      cases w with
      | null => exact ⟨rfl, List.append_cancel_left same⟩
      | _ => exact nomatch ctorIdx_eq_of_append same
  | .bool b, w, front, back, _, _, same => by
      cases w with
      | bool c => cases b <;> cases c <;> simp_all [compact]
      | _ => exact nomatch ctorIdx_eq_of_append same
  | .number n, w, front, back, stops, stops', same => by
      cases w with
      | number m =>
          obtain ⟨texts, rests⟩ := Numeral.split n.marks_text m.marks_text stops stops' same
          exact ⟨by rw [Number.text_injective (String.toList_inj.mp texts)], rests⟩
      | _ => exact nomatch ctorIdx_eq_of_append same
  | .string s, w, front, back, _, _, same => by
      cases w with
      | string t =>
          simp only [compact, quote, String.toList_ofList] at same
          obtain ⟨rfl, rests⟩ := quoteChars_split same
          exact ⟨rfl, rests⟩
      | _ => exact nomatch ctorIdx_eq_of_append same
  | .array items, w, front, back, _, _, same => by
      cases w with
      | array others =>
          obtain ⟨rfl, rests⟩ := furtherItems_split (furtherItems_of_array same)
          exact ⟨rfl, rests⟩
      | _ => exact nomatch ctorIdx_eq_of_append same
  | .object fields, w, front, back, _, _, same => by
      cases w with
      | object others =>
          obtain ⟨rfl, rests⟩ := furtherFields_split (furtherFields_of_object same)
          exact ⟨rfl, rests⟩
      | _ => exact nomatch ctorIdx_eq_of_append same
/-- Items that follow others are known from the text up to the closing bracket. -/
theorem furtherItems_split : ∀ {vs ws : List Json} {front back : List Char},
    furtherItems vs ++ ']' :: front = furtherItems ws ++ ']' :: back → vs = ws ∧ front = back
  | [], [], front, back, same => by
      simpa [furtherItems] using same
  | [], w :: ws, front, back, same => by
      simp [furtherItems] at same
  | v :: vs, [], front, back, same => by
      simp [furtherItems] at same
  | v :: vs, w :: ws, front, back, same => by
      simp only [furtherItems, List.cons_append, List.append_assoc, List.cons.injEq,
        true_and] at same
      obtain ⟨rfl, rest⟩ :=
        compact_split (stops_furtherItems vs front) (stops_furtherItems ws back) same
      obtain ⟨rfl, rfl⟩ := furtherItems_split rest
      exact ⟨rfl, rfl⟩
/-- Fields that follow others are known from the text up to the closing brace. -/
theorem furtherFields_split : ∀ {fs gs : List (String × Json)} {front back : List Char},
    furtherFields fs ++ '\x7d' :: front = furtherFields gs ++ '\x7d' :: back →
      fs = gs ∧ front = back
  | [], [], front, back, same => by
      simpa [furtherFields] using same
  | [], (name, w) :: gs, front, back, same => by
      simp [furtherFields] at same
  | (name, v) :: fs, [], front, back, same => by
      simp [furtherFields] at same
  | (name, v) :: fs, (name', w) :: gs, front, back, same => by
      simp only [furtherFields, List.cons_append, List.append_assoc, List.cons.injEq,
        true_and] at same
      obtain ⟨rfl, value⟩ := quoteChars_split same
      obtain ⟨rfl, rest⟩ := compact_split (stops_furtherFields fs front)
        (stops_furtherFields gs back) (List.cons.inj value).2
      obtain ⟨rfl, rfl⟩ := furtherFields_split rest
      exact ⟨rfl, rfl⟩
end

/-- Different values have different texts. -/
theorem compact_injective : Function.Injective compact := by
  intro v w same
  have texts : v.compact.toList ++ [] = w.compact.toList ++ [] := by rw [same]
  exact (compact_split (by simp [Stops]) (by simp [Stops]) texts).1

end EventDispatch.Json
