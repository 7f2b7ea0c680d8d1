import EventDispatch.Proofs.Pattern.Matching
/-!
Patterns with one indexed form.

Purpose: two patterns have the same indexed form only if they are equal, or if somewhere one has a
sequence where the other has the mapping that spells out the positions of that sequence. Under the
same names they again have patterns with one indexed form.

Main exports: `Pattern.Crossing`, `Pattern.eq_or_crossing`, `Pattern.indexed_under`.
-/

namespace EventDispatch.Pattern

/-- At some place one pattern has a sequence and the other the mapping from the decimal positions of
its elements to the elements, up to further such places below. -/
inductive Crossing : Pattern → Pattern → Prop where
  | sequence {items : List Json} {fields : List (String × Json)}
      (spelledOut : indexed (.array items) = indexed (.object fields)) :
      Crossing (.array items) (.object fields)
  | mapping {fields : List (String × Json)} {items : List Json}
      (spelledOut : indexed (.object fields) = indexed (.array items)) :
      Crossing (.object fields) (.array items)
  | item {items others : List Json} {n : Nat} {p q : Json} (place : items[n]? = some p)
      (place' : others[n]? = some q) (below : Crossing p q) :
      Crossing (.array items) (.array others)
  | field {fields others : List (String × Json)} {name : String} {p q : Json}
      (member : (name, p) ∈ fields) (member' : (name, q) ∈ others) (below : Crossing p q) :
      Crossing (.object fields) (.object others)

theorem isPrimitive_indexed (p : Pattern) : isPrimitive (indexed p) = isPrimitive p := by
  cases p <;> simp [indexed, isPrimitive]

/-- A primitive is the only pattern with its indexed form. -/
theorem eq_of_isPrimitive {p q : Pattern} (primitive : isPrimitive p = true)
    (same : indexed p = indexed q) : p = q := by
  have primitive' : isPrimitive q = true := by
    rw [← isPrimitive_indexed, ← same, isPrimitive_indexed, primitive]
  rwa [indexed_of_isPrimitive primitive, indexed_of_isPrimitive primitive'] at same

/-- The elements of sequences with one indexed form are one by one of one indexed form. -/
theorem map_indexed_eq {items others : List Json}
    (same : indexed (.array items) = indexed (.array others)) :
    items.map indexed = others.map indexed := by
  apply List.ext_getElem?
  intro n
  rw [List.getElem?_map, List.getElem?_map, ← get?_indexed_position, same, get?_indexed_position]

mutual
/-- Patterns with one indexed form are equal, or they cross. -/
theorem eq_or_crossing : ∀ {p q : Json}, indexed p = indexed q → p = q ∨ Crossing p q
  | .null, _, same => Or.inl (eq_of_isPrimitive rfl same)
  | .bool _, _, same => Or.inl (eq_of_isPrimitive rfl same)
  | .number _, _, same => Or.inl (eq_of_isPrimitive rfl same)
  | .string _, _, same => Or.inl (eq_of_isPrimitive rfl same)
  | .array items, q, same => by
      cases q with
      | array others =>
          rcases eq_or_crossing_items (map_indexed_eq same)
            with equal | ⟨n, p, q, place, place', below⟩
          · exact Or.inl (congrArg Json.array equal)
          · exact Or.inr (.item place place' below)
      | object fields => exact Or.inr (.sequence same)
      | _ => exact absurd same (by simp [indexed])
  | .object fields, q, same => by
      cases q with
      | array items => exact Or.inr (.mapping same)
      | object others =>
          rcases eq_or_crossing_fields (Json.object.inj same)
            with equal | ⟨name, p, q, member, member', below⟩
          · exact Or.inl (congrArg Json.object equal)
          · exact Or.inr (.field member member' below)
      | _ => exact absurd same (by simp [indexed])
/-- Elements with one indexed form each are equal, or two at one position cross. -/
theorem eq_or_crossing_items : ∀ {items others : List Json},
    items.map indexed = others.map indexed → items = others ∨
      ∃ (n : Nat) (p q : Json), items[n]? = some p ∧ others[n]? = some q ∧ Crossing p q
  | [], [], _ => Or.inl rfl
  | [], _ :: _, same => nomatch same
  | _ :: _, [], same => nomatch same
  | p :: ps, q :: qs, same => by
      obtain ⟨here, further⟩ := List.cons.inj same
      rcases eq_or_crossing here with rfl | below
      · rcases eq_or_crossing_items further with rfl | ⟨n, p', q', place, place', below⟩
        · exact Or.inl rfl
        · exact Or.inr ⟨n + 1, p', q', place, place', below⟩
      · exact Or.inr ⟨0, p, q, rfl, rfl, below⟩
/-- Fields with one indexed form each are equal, or two of one name cross. -/
theorem eq_or_crossing_fields : ∀ {fields others : List (String × Json)},
    indexedFields fields = indexedFields others → fields = others ∨
      ∃ name p q, (name, p) ∈ fields ∧ (name, q) ∈ others ∧ Crossing p q
  | [], [], _ => Or.inl rfl
  | [], (_, _) :: _, same => nomatch same
  | (_, _) :: _, [], same => nomatch same
  | (name, p) :: fs, (name', q) :: gs, same => by
      obtain ⟨entry, further⟩ := List.cons.inj same
      obtain ⟨rfl, here⟩ := Prod.mk.inj entry
      rcases eq_or_crossing here with rfl | below
      · rcases eq_or_crossing_fields further with rfl | ⟨other, p', q', member, member', below⟩
        · exact Or.inl rfl
        · exact Or.inr ⟨other, p', q', List.mem_cons_of_mem _ member,
            List.mem_cons_of_mem _ member', below⟩
      · exact Or.inr ⟨name, p, q, List.mem_cons_self, List.mem_cons_self, below⟩
end

/-- Patterns with one indexed form have patterns with one indexed form under the same names. -/
theorem indexed_under {way : List String} {p q a b : Pattern} (same : indexed p = indexed q)
    (reached : under way p = some a) (reached' : under way q = some b) :
    indexed a = indexed b := by
  refine rel_under (R := fun p q => indexed p = indexed q) ?_ same reached reached'
  intro fields others name p q forms found found'
  have values : some (indexed p) = some (indexed q) := by
    calc some (indexed p)
        = (indexed (.object fields)).get? name := by
          rw [get?_indexed_object, found, Option.map_some]
      _ = (indexed (.object others)).get? name := by rw [forms]
      _ = some (indexed q) := by rw [get?_indexed_object, found', Option.map_some]
  exact Option.some.inj values

end EventDispatch.Pattern
