import EventDispatch.Pattern.Basic
import EventDispatch.Proofs.Json.Fields
import EventDispatch.Proofs.Json.Readable
/-!
Keys and indexed forms.

Purpose: the indexed form of a sequence is the mapping that has each element, indexed itself, under
its decimal position, and no other names. Two patterns that are not strings share a key exactly if
their indexed forms are the same, since the key is the JSON text of the indexed form and JSON text
can be read in one way only.

Main exports: `Pattern.get?_indexed_array`, `Pattern.get?_indexed_object`, `Pattern.SpellsOut`,
`Pattern.spellsOut_indexed`, `Pattern.indexed_of_key_eq`, `Pattern.key_eq_iff_indexed_eq`.
-/

namespace EventDispatch.Pattern

/-! ### The indexed form -/

theorem indexed_of_isPrimitive {p : Pattern} (primitive : p.isPrimitive = true) :
    indexed p = p := by
  cases p <;> simp_all [indexed, isPrimitive]

theorem toString_position_injective : Function.Injective (toString : Nat → String) := by
  intro m n same
  have digits := congrArg (fun s : String => Nat.ofDigitChars 10 s.toList 0) same
  simpa [Nat.toString_eq_repr, Nat.repr] using digits

/-- What is found under a position among elements that are counted from another position on. -/
theorem find?_indexedItems (first n : Nat) (items : List Json) :
    Fields.find? (toString n) (indexedItems first items).reverse
      = if n < first then none else items[n - first]?.map indexed := by
  induction items generalizing first with
  | nil => simp [indexedItems]
  | cons p ps inductionHypothesis =>
      rw [indexedItems, List.reverse_cons, Fields.find?_append, inductionHypothesis,
        Fields.find?_cons, Fields.find?_nil]
      simp only [toString_position_injective.eq_iff]
      rcases Nat.lt_trichotomy n first with before | rfl | after
      · have later : n < first + 1 := by omega
        simp [before, later, Nat.ne_of_lt before]
      · simp
      · have notBefore : ¬ n < first := by omega
        have notNext : ¬ n < first + 1 := by omega
        have position : n - first = n - (first + 1) + 1 := by omega
        simp [notBefore, notNext, position, Nat.ne_of_gt after]

/-- The names among indexed elements are decimal positions. -/
theorem name_of_mem_indexedItems {name : String} {v : Json} {first : Nat} {items : List Json}
    (member : (name, v) ∈ indexedItems first items) : ∃ n : Nat, name = toString n := by
  induction items generalizing first with
  | nil => simp [indexedItems] at member
  | cons p ps inductionHypothesis =>
      rw [indexedItems, List.mem_cons] at member
      rcases member with here | further
      · cases here
        exact ⟨first, rfl⟩
      · exact inductionHypothesis further

/-- Under a decimal position stands the element at that position. -/
theorem get?_indexed_position (items : List Json) (n : Nat) :
    (indexed (.array items)).get? (toString n) = items[n]?.map indexed := by
  simp only [indexed, Json.get?]
  rw [Fields.find?_ofList, find?_indexedItems]
  simp

/-- A sequence becomes the mapping from the decimal positions of its elements to the elements. -/
theorem get?_indexed_array {items : List Json} {name : String} {v : Json} :
    (indexed (.array items)).get? name = some v ↔
      ∃ (n : Nat) (p : Json), name = toString n ∧ items[n]? = some p ∧ v = indexed p := by
  constructor
  · intro found
    have member := found
    simp only [indexed, Json.get?] at member
    obtain ⟨n, rfl⟩ := name_of_mem_indexedItems (Fields.mem_ofList (Fields.mem_of_find? member))
    rw [get?_indexed_position, Option.map_eq_some_iff] at found
    obtain ⟨p, place, value⟩ := found
    exact ⟨n, p, rfl, place, value.symm⟩
  · rintro ⟨n, p, rfl, place, rfl⟩
    rw [get?_indexed_position, place, Option.map_some]

theorem indexedFields_eq_map (fields : List (String × Json)) :
    indexedFields fields = fields.map fun entry => (entry.1, indexed entry.2) := by
  induction fields with
  | nil => rfl
  | cons field fs inductionHypothesis =>
      obtain ⟨name, p⟩ := field
      rw [indexedFields, inductionHypothesis, List.map_cons]

/-- A mapping keeps its names. -/
theorem get?_indexed_object (fields : List (String × Json)) (name : String) :
    (indexed (.object fields)).get? name = (Fields.find? name fields).map indexed := by
  simp only [indexed, Json.get?]
  rw [indexedFields_eq_map, Fields.find?_map]

/-- What it means to replace every sequence, at any depth, by the mapping from the decimal positions
of its elements to the elements. -/
structure SpellsOut (form : Pattern → Pattern) : Prop where
  primitive : ∀ p : Pattern, p.isPrimitive = true → form p = p
  /-- A sequence becomes a mapping whose names are the decimal positions of its elements. -/
  sequence : ∀ items : List Json, ∃ fields : Fields Json, form (.array items) = .object fields ∧
    fields.Sorted ∧ ∀ name v, fields.find? name = some v ↔
      ∃ (n : Nat) (p : Json), name = toString n ∧ items[n]? = some p ∧ v = form p
  mapping : ∀ fields : Fields Json,
    form (.object fields) = .object (fields.map fun entry => (entry.1, form entry.2))

theorem spellsOut_indexed : SpellsOut indexed where
  primitive := fun _ => indexed_of_isPrimitive
  sequence := by
    intro items
    refine ⟨_, by rw [indexed], Fields.Sorted.ofList _, ?_⟩
    intro name v
    rw [← get?_indexed_array, indexed, Json.get?]
  mapping := by
    intro fields
    rw [indexed, indexedFields_eq_map]

/-! ### The key -/

/-- The key of a pattern that is no string is the text of its indexed form. -/
theorem key_of_not_string {p : Pattern} (composed : ∀ s, p ≠ .string s) :
    p.key = (indexed p).compact := by
  unfold key
  split
  · exact absurd rfl (composed _)
  · rfl

theorem indexed_of_key_eq {p q : Pattern} (composedP : ∀ s, p ≠ .string s)
    (composedQ : ∀ s, q ≠ .string s) (same : p.key = q.key) : indexed p = indexed q := by
  rw [key_of_not_string composedP, key_of_not_string composedQ] at same
  exact Json.compact_injective same

/-- Two patterns that are not strings have one key exactly if they have one indexed form, which is
the pattern with its sequences replaced by mappings from decimal positions. -/
theorem key_eq_iff_indexed_eq :
    SpellsOut indexed ∧ ∀ p q : Pattern, (∀ s, p ≠ .string s) → (∀ s, q ≠ .string s) →
      (p.key = q.key ↔ indexed p = indexed q) := by
  refine ⟨spellsOut_indexed, ?_⟩
  intro p q composedP composedQ
  constructor
  · exact indexed_of_key_eq composedP composedQ
  · intro same
    rw [key_of_not_string composedP, key_of_not_string composedQ, same]

/-- A sequence has the key of the mapping that spells out its positions, at any depth; quotation
marks inside a string do not make it look like two fields. -/
theorem key_spelled_out :
    key (.object [("k", .array [.null, .bool true])])
        = key (.object [("k", .object [("0", .null), ("1", .bool true)])]) ∧
      key (.array [.object [("a", .string "1\",\"b\":\"2")]])
        ≠ key (.array [.object [("a", .string "1"), ("b", .string "2")]]) := by
  constructor
  · apply (key_eq_iff_indexed_eq.2 _ _ (by simp) (by simp)).mpr
    rfl
  · intro same
    have forms := (key_eq_iff_indexed_eq.2 _ _ (by simp) (by simp)).mp same
    simp [indexed, indexedItems, indexedFields, Fields.ofList, Fields.insert] at forms

end EventDispatch.Pattern
