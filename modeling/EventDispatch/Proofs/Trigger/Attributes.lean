import EventDispatch.Proofs.Json.Fields
import EventDispatch.Proofs.Trigger.Unwrapping
/-!
Patterns made of attributes.

Purpose: what an attribute of each type stands for, and why an attribute is refused, said apart from
the reading. A pattern made of attributes maps their names, and no others, to what they stand for,
where the last attribute of a name counts. It is refused for the first attribute that is refused,
whatever else the list says about that attribute's name.

Main exports: `Attribute.Means`, `Attribute.Unfit`, `Attribute.coerce_eq_ok_iff`,
`Attribute.coerce_eq_error_iff`, `Attribute.coerceAll_eq_error_iff`, `Attribute.pattern_maps_names`.
-/

namespace EventDispatch.Attribute

/-- An attribute without text, or with the empty one. -/
def Bare (a : Attribute) : Prop := a.text = none ∨ a.text = some ""

/-- An attribute with a text that is not empty. -/
def Spells (a : Attribute) (text : String) : Prop := a.text = some text ∧ text ≠ ""

/-- The types of attributes that have values. -/
def knownTypes : List String := ["String", "String.Array", "Number"]

/-- What an attribute stands for. -/
inductive Means (a : Attribute) : Json → Prop where
  /-- A text that is the JSON text of a value is that value. -/
  | parsed {text : String} {v : Json} (type : a.type = "String") (spells : a.Spells text)
      (read : Json.parse text = .ok v) : Means a v
  /-- Any other text is itself. -/
  | verbatim {text : String} {e : ReadError} (type : a.type = "String") (spells : a.Spells text)
      (unread : Json.parse text = .error e) : Means a (.string text)
  | noText (type : a.type = "String") (bare : a.Bare) : Means a (.string "")
  | items {text : String} {items : List Json} (type : a.type = "String.Array")
      (spells : a.Spells text) (read : Json.parse text = .ok (.array items)) :
      Means a (.array items)
  | noItems (type : a.type = "String.Array") (bare : a.Bare) : Means a (.array [])
  | number {text : String} {n : Number} (type : a.type = "Number") (spells : a.Spells text)
      (read : Json.parse text = .ok (.number n)) : Means a (.number n)
  | zero (type : a.type = "Number") (bare : a.Bare) : Means a (Json.ofInt 0)

/-- Why an attribute stands for nothing. -/
inductive Unfit (a : Attribute) : MappingError → Prop where
  | unknownType (unknown : a.type ∉ knownTypes) : Unfit a (.attributeType a.type)
  | malformed {text : String} {e : ReadError} (type : a.type = "String.Array" ∨ a.type = "Number")
      (spells : a.Spells text) (unread : Json.parse text = .error e) :
      Unfit a (.attributeValue a.name e.message)
  | noArray {text : String} {v : Json} (type : a.type = "String.Array") (spells : a.Spells text)
      (read : Json.parse text = .ok v) (other : ∀ items, v ≠ .array items) :
      Unfit a (.attributeValue a.name "expected a JSON array")
  | noNumber {text : String} {v : Json} (type : a.type = "Number") (spells : a.Spells text)
      (read : Json.parse text = .ok v) (other : ∀ n, v ≠ .number n) :
      Unfit a (.attributeValue a.name "expected a number")

variable {a : Attribute} {attributes : List Attribute} {v : Json} {e : MappingError}

/-! ### One attribute -/

theorem spelled_eq_some_iff {text : String} : a.spelled = some text ↔ a.Spells text := by
  simp [spelled, Spells, Option.filter_eq_some_iff]

theorem spelled_eq_none_iff : a.spelled = none ↔ a.Bare := by
  unfold spelled Bare
  cases a.text <;> simp

/-- An attribute has a text or is bare, and not both. -/
theorem spells_or_bare (a : Attribute) : (∃ text, a.Spells text) ∨ a.Bare := by
  cases read : a.spelled with
  | none => exact Or.inr (spelled_eq_none_iff.mp read)
  | some text => exact Or.inl ⟨text, spelled_eq_some_iff.mp read⟩

theorem isArray_iff : isArray v = true ↔ ∃ items, v = .array items := by
  cases v <;> simp [isArray]

theorem isNumber_iff : isNumber v = true ↔ ∃ n, v = .number n := by
  cases v <;> simp [isNumber]

/-- What an attribute stands for is its value. -/
theorem Means.coerce (means : a.Means v) : a.coerce = .ok v := by
  cases means with
  | parsed type spells read =>
      simp [Attribute.coerce, type, spelled_eq_some_iff.mpr spells, read]
  | verbatim type spells unread =>
      simp [Attribute.coerce, type, spelled_eq_some_iff.mpr spells, unread]
  | noText type bare => simp [Attribute.coerce, type, spelled_eq_none_iff.mpr bare]
  | items type spells read =>
      simp [Attribute.coerce, type, spelled_eq_some_iff.mpr spells, spelling, read, isArray]
  | noItems type bare => simp [Attribute.coerce, type, spelled_eq_none_iff.mpr bare]
  | number type spells read =>
      simp [Attribute.coerce, type, spelled_eq_some_iff.mpr spells, spelling, read, isNumber]
  | zero type bare => simp [Attribute.coerce, type, spelled_eq_none_iff.mpr bare]

/-- An attribute that stands for nothing is refused, and the error says why. -/
theorem Unfit.coerce (unfit : a.Unfit e) : a.coerce = .error e := by
  cases unfit with
  | unknownType unknown =>
      simp only [knownTypes, List.mem_cons, List.not_mem_nil, or_false, not_or] at unknown
      obtain ⟨noString, noArray, noNumber⟩ := unknown
      unfold Attribute.coerce
      split <;> simp_all
  | malformed type spells unread =>
      rcases type with type | type <;>
        simp [Attribute.coerce, type, spelled_eq_some_iff.mpr spells, spelling, unread]
  | @noArray text v type spells read other =>
      have none : isArray v = false := by
        rw [Bool.eq_false_iff]
        exact fun array => (isArray_iff.mp array).elim other
      simp [Attribute.coerce, type, spelled_eq_some_iff.mpr spells, spelling, read, none]
  | @noNumber text v type spells read other =>
      have none : isNumber v = false := by
        rw [Bool.eq_false_iff]
        exact fun number => (isNumber_iff.mp number).elim other
      simp [Attribute.coerce, type, spelled_eq_some_iff.mpr spells, spelling, read, none]

/-- Every attribute stands for something, or is unfit for a reason. -/
theorem means_or_unfit (a : Attribute) : (∃ v, a.Means v) ∨ ∃ e, a.Unfit e := by
  by_cases known : a.type ∈ knownTypes
  · simp only [knownTypes, List.mem_cons, List.not_mem_nil, or_false] at known
    rcases spells_or_bare a with ⟨text, spells⟩ | bare
    · cases read : Json.parse text with
      | error e =>
          rcases known with type | type | type
          · exact Or.inl ⟨_, .verbatim type spells read⟩
          · exact Or.inr ⟨_, .malformed (Or.inl type) spells read⟩
          · exact Or.inr ⟨_, .malformed (Or.inr type) spells read⟩
      | ok v =>
          rcases known with type | type | type
          · exact Or.inl ⟨_, .parsed type spells read⟩
          · by_cases array : ∃ items, v = .array items
            · obtain ⟨items, rfl⟩ := array
              exact Or.inl ⟨_, .items type spells read⟩
            · exact Or.inr ⟨_, .noArray type spells read (not_exists.mp array)⟩
          · by_cases number : ∃ n, v = .number n
            · obtain ⟨n, rfl⟩ := number
              exact Or.inl ⟨_, .number type spells read⟩
            · exact Or.inr ⟨_, .noNumber type spells read (not_exists.mp number)⟩
    · rcases known with type | type | type
      · exact Or.inl ⟨_, .noText type bare⟩
      · exact Or.inl ⟨_, .noItems type bare⟩
      · exact Or.inl ⟨_, .zero type bare⟩
  · exact Or.inr ⟨_, .unknownType known⟩

theorem coerce_eq_ok_iff : a.coerce = .ok v ↔ a.Means v := by
  constructor
  · intro coerced
    rcases means_or_unfit a with ⟨w, means⟩ | ⟨e, unfit⟩
    · cases coerced.symm.trans means.coerce
      exact means
    · cases coerced.symm.trans unfit.coerce
  · exact Means.coerce

theorem coerce_eq_error_iff : a.coerce = .error e ↔ a.Unfit e := by
  constructor
  · intro refused
    rcases means_or_unfit a with ⟨v, means⟩ | ⟨f, unfit⟩
    · cases refused.symm.trans means.coerce
    · cases refused.symm.trans unfit.coerce
      exact unfit
  · exact Unfit.coerce

/-! ### Lists of attributes -/

/-- Attributes are refused for the first one, from the left, that is refused. -/
theorem coerceAll_eq_error_iff :
    coerceAll attributes = .error e ↔ ∃ before a after, attributes = before ++ a :: after ∧
      (∀ b ∈ before, ∃ v, b.coerce = .ok v) ∧ a.coerce = .error e := by
  induction attributes with
  | nil => simp [coerceAll]
  | cons first rest inductionHypothesis =>
      have step : coerceAll (first :: rest) = .error e ↔
          first.coerce = .error e ∨ (∃ v, first.coerce = .ok v) ∧ coerceAll rest = .error e := by
        simp only [coerceAll, bind_eq_error_iff, pure, Except.pure, reduceCtorEq, and_false,
          exists_false, or_false, exists_and_right]
      rw [step, inductionHypothesis]
      constructor
      · rintro (refused | ⟨own, before, a, after, rfl, fine, refused⟩)
        · exact ⟨[], first, rest, rfl, by simp, refused⟩
        · exact ⟨first :: before, a, after, rfl, List.forall_mem_cons.mpr ⟨own, fine⟩, refused⟩
      · rintro ⟨before, a, after, split, fine, refused⟩
        cases before with
        | nil =>
            cases split
            exact Or.inl refused
        | cons b before =>
            cases split
            obtain ⟨own, others⟩ := List.forall_mem_cons.mp fine
            exact Or.inr ⟨own, before, a, after, rfl, others, refused⟩

/-- The names stand in the order of the attributes. -/
theorem map_fst_of_coerceAll {pairs : List (String × Json)}
    (made : coerceAll attributes = .ok pairs) : pairs.map Prod.fst = attributes.map name := by
  induction attributes generalizing pairs with
  | nil =>
      cases made
      rfl
  | cons a rest inductionHypothesis =>
      obtain ⟨v, _, others, later, rfl⟩ := coerceAll_cons_eq_ok_iff.mp made
      rw [List.map_cons, List.map_cons, inductionHypothesis later]

/-- The values of attributes in two parts are those of the one part and then those of the other. -/
theorem coerceAll_append_eq_ok_iff {before after : List Attribute}
    {pairs : List (String × Json)} :
    coerceAll (before ++ after) = .ok pairs ↔ ∃ front back, coerceAll before = .ok front ∧
      coerceAll after = .ok back ∧ front ++ back = pairs := by
  induction before generalizing pairs with
  | nil => simp [coerceAll]
  | cons b before inductionHypothesis =>
      rw [List.cons_append]
      simp only [coerceAll_cons_eq_ok_iff, inductionHypothesis]
      constructor
      · rintro ⟨v, own, _, ⟨front, back, made, others, rfl⟩, rfl⟩
        exact ⟨_, back, ⟨v, own, front, made, rfl⟩, others, rfl⟩
      · rintro ⟨_, back, ⟨v, own, front, made, rfl⟩, others, rfl⟩
        exact ⟨v, own, _, ⟨front, back, made, others, rfl⟩, rfl⟩

/-- Of the attributes with one name the last one is found under it. -/
theorem find?_of_last {before after : List Attribute} {pairs : List (String × Json)}
    (made : coerceAll (before ++ a :: after) = .ok pairs) (last : ∀ b ∈ after, b.name ≠ a.name) :
    ∃ v, a.coerce = .ok v ∧ (Fields.ofList pairs).find? a.name = some v := by
  obtain ⟨front, _, _, there, rfl⟩ := coerceAll_append_eq_ok_iff.mp made
  obtain ⟨v, own, back, later, rfl⟩ := coerceAll_cons_eq_ok_iff.mp there
  have absent : Fields.find? a.name back.reverse = none := by
    rw [Option.eq_none_iff_forall_ne_some]
    intro w found
    have member := List.mem_reverse.mp (Fields.mem_of_find? found)
    have named := List.mem_map_of_mem (f := Prod.fst) member
    rw [map_fst_of_coerceAll later] at named
    obtain ⟨b, behind, same⟩ := List.mem_map.mp named
    exact last b behind same
  refine ⟨v, own, ?_⟩
  rw [Fields.find?_ofList, List.reverse_append, List.reverse_cons, List.append_assoc,
    Fields.find?_append, absent, Option.none_or, List.singleton_append, Fields.find?_cons,
    if_pos rfl]

theorem pattern_eq_ok_iff {p : Pattern} : pattern attributes = .ok p ↔
    ∃ pairs, coerceAll attributes = .ok pairs ∧ Json.ofPairs pairs = p := by
  unfold pattern
  cases coerceAll attributes <;> simp [Except.map]

theorem pattern_eq_error_iff : pattern attributes = .error e ↔
    coerceAll attributes = .error e := by
  unfold pattern
  cases coerceAll attributes <;> simp [Except.map]

/-- A pattern can be made of attributes if and only if each of them stands for something, which one
of an unknown type never does. Then it is a mapping whose names are those of the attributes, each
once, with what the last attribute of the name stands for. Otherwise the error says what is unfit
about the first attribute, from the left, that stands for nothing. -/
theorem pattern_maps_names (attributes : List Attribute) :
    ((∃ p, pattern attributes = .ok p) ↔ ∀ a ∈ attributes, ∃ v, a.Means v) ∧
    (∀ p, pattern attributes = .ok p → ∃ fields : Fields Json, p = .object fields ∧
      fields.Sorted ∧ (∀ name, name ∈ fields.names ↔ name ∈ attributes.map Attribute.name) ∧
      ∀ before a after, attributes = before ++ a :: after → (∀ b ∈ after, b.name ≠ a.name) →
        ∃ v, a.Means v ∧ p.get? a.name = some v) ∧
    (∀ e, pattern attributes = .error e ↔ ∃ before a after, attributes = before ++ a :: after ∧
      (∀ b ∈ before, ∃ v, b.Means v) ∧ a.Unfit e) ∧
    (∀ a : Attribute, (∃ v, a.Means v) ↔ ∀ e, ¬ a.Unfit e) ∧
    ∀ a : Attribute, a.type ∉ knownTypes → a.Unfit (.attributeType a.type) ∧ ∀ v, ¬ a.Means v := by
  refine ⟨?_, ?_, ?_, ?_, ?_⟩
  · simp only [exists_pattern_iff, coerce_eq_ok_iff]
  · intro p made
    obtain ⟨pairs, coerced, rfl⟩ := pattern_eq_ok_iff.mp made
    refine ⟨Fields.ofList pairs, rfl, .ofList pairs, ?_, ?_⟩
    · intro name
      rw [Fields.mem_names_ofList, map_fst_of_coerceAll coerced]
    · rintro before a after rfl last
      obtain ⟨v, own, found⟩ := find?_of_last coerced last
      exact ⟨v, coerce_eq_ok_iff.mp own, found⟩
  · intro e
    rw [pattern_eq_error_iff, coerceAll_eq_error_iff]
    simp only [coerce_eq_ok_iff, coerce_eq_error_iff]
  · intro a
    constructor
    · rintro ⟨v, means⟩ e unfit
      cases means.coerce.symm.trans unfit.coerce
    · intro fit
      rcases means_or_unfit a with means | ⟨e, unfit⟩
      · exact means
      · exact absurd unfit (fit e)
  · intro a unknown
    refine ⟨.unknownType unknown, ?_⟩
    intro v means
    cases means.coerce.symm.trans (Unfit.unknownType unknown).coerce

end EventDispatch.Attribute
