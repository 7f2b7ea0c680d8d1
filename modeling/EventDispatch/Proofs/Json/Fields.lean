import EventDispatch.Json.Fields
/-!
Fields as finite maps.

Purpose: what a look-up finds after a name was written or erased, and that names stay in strict
order. In an ordered map membership and look-up say the same.

Main exports: `Fields.find?_insert`, `Fields.find?_erase`, `Fields.find?_map`,
`Fields.find?_union`, `Fields.find?_ofList`, `Fields.find?_present`, `Fields.mem_names_ofList`,
`Fields.Sorted.insert`, `Fields.Sorted.erase`, `Fields.Sorted.ofList`, `Fields.Sorted.find?_of_mem`,
`Fields.Sorted.find?_filter`, `Fields.Sorted.ext`.
-/

namespace EventDispatch.Fields

variable {α : Type}

/-- Names that are not in order either way are one name. -/
private theorem eq_of_not_lt {first second : String} (notBelow : ¬ first < second)
    (notAbove : ¬ second < first) : first = second :=
  String.le_antisymm (String.not_lt.mp notAbove) (String.not_lt.mp notBelow)

@[simp] theorem find?_nil (name : String) : find? name ([] : Fields α) = none := rfl

theorem find?_cons (name other : String) (value : α) (rest : Fields α) :
    find? name ((other, value) :: rest)
      = if name = other then some value else find? name rest := by
  by_cases same : name = other
  · simp [find?, same]
  · have differs : (name == other) = false := by simpa using same
    simp [find?, List.lookup_cons, same, differs]

/-- Writing a name changes what is found under it, and nothing else. -/
theorem find?_insert (name other : String) (value : α) (fields : Fields α) :
    find? other (insert name value fields)
      = if other = name then some value else find? other fields := by
  induction fields with
  | nil => simp [insert, find?_cons]
  | cons head rest inductionHypothesis =>
      obtain ⟨n, v⟩ := head
      unfold insert
      split
      · rw [find?_cons]
      · rename_i notBelow
        split
        · rename_i above
          rw [find?_cons, find?_cons, inductionHypothesis]
          by_cases atHead : other = n
          · subst atHead
            have differs : other ≠ name := fun same => by
              subst same
              exact String.lt_irrefl _ above
            simp [differs]
          · simp [atHead]
        · rename_i notAbove
          have same : name = n := eq_of_not_lt notBelow notAbove
          subst same
          rw [find?_cons, find?_cons]
          by_cases atHead : other = name <;> simp [atHead]

/-- Erasing a name removes what is found under it, and nothing else. -/
theorem find?_erase (name other : String) (fields : Fields α) :
    find? other (erase name fields)
      = if other = name then none else find? other fields := by
  induction fields with
  | nil => simp [erase]
  | cons head rest inductionHypothesis =>
      obtain ⟨n, v⟩ := head
      unfold erase at inductionHypothesis ⊢
      by_cases gone : n = name
      · subst gone
        simp only [List.filter_cons, bne_self_eq_false, Bool.false_eq_true, if_false]
        rw [inductionHypothesis, find?_cons]
        by_cases same : other = n <;> simp [same]
      · have kept : (n != name) = true := by simpa using gone
        simp only [List.filter_cons, kept, if_true]
        rw [find?_cons, find?_cons, inductionHypothesis]
        by_cases atHead : other = n
        · subst atHead
          simp [gone]
        · simp [atHead]

/-- What is found under a name stands in the map under that name. -/
theorem mem_of_find? {name : String} {value : α} {fields : Fields α}
    (found : fields.find? name = some value) : (name, value) ∈ fields := by
  induction fields with
  | nil => simp at found
  | cons head rest inductionHypothesis =>
      obtain ⟨n, v⟩ := head
      rw [find?_cons] at found
      split at found
      · rename_i same
        cases found
        simp [same]
      · exact List.mem_cons_of_mem _ (inductionHypothesis found)

theorem find?_append (name : String) (front back : Fields α) :
    find? name (front ++ back) = (find? name front).or (find? name back) := by
  induction front with
  | nil => rfl
  | cons head rest inductionHypothesis =>
      obtain ⟨n, v⟩ := head
      rw [List.cons_append, find?_cons, find?_cons, inductionHypothesis]
      split <;> rfl

/-- Values may be changed before or after they are looked up. -/
theorem find?_map {β : Type} (f : α → β) (name : String) (fields : Fields α) :
    find? name (fields.map fun entry => (entry.1, f entry.2)) = (find? name fields).map f := by
  induction fields with
  | nil => rfl
  | cons head rest inductionHypothesis =>
      obtain ⟨n, v⟩ := head
      rw [List.map_cons, find?_cons, find?_cons, inductionHypothesis]
      split <;> rfl

/-- Of what was written later the last value with a name is found, and else what was there. -/
theorem find?_union (name : String) (earlier later : Fields α) :
    find? name (union earlier later) = (find? name later.reverse).or (find? name earlier) := by
  unfold union
  induction later generalizing earlier with
  | nil => rfl
  | cons head rest inductionHypothesis =>
      obtain ⟨n, v⟩ := head
      rw [List.foldl_cons, inductionHypothesis, find?_insert, List.reverse_cons, find?_append,
        Option.or_assoc, find?_cons, find?_nil]
      split <;> rfl

/-- Of pairs written one after another the last one with a name is found under it. -/
theorem find?_ofList (name : String) (pairs : List (String × α)) :
    find? name (ofList pairs) = find? name pairs.reverse :=
  (find?_union name [] pairs).trans (Option.or_none ..)

/-- Of values that may be missing, under different names, those that are present are found, from
whichever end. -/
theorem find?_present {pairs : List (String × Option α)} (distinct : (pairs.map Prod.fst).Nodup)
    (name : String) :
    find? name (pairs.filterMap fun pair => pair.2.map (pair.1, ·)).reverse
      = (find? name pairs).join := by
  induction pairs with
  | nil => rfl
  | cons head rest inductionHypothesis =>
      obtain ⟨n, o⟩ := head
      obtain ⟨notAgain, restDistinct⟩ := List.nodup_cons.mp distinct
      have first : (((n, o) :: rest).filterMap fun pair => pair.2.map (pair.1, ·))
          = (o.map (n, ·)).toList ++ rest.filterMap fun pair => pair.2.map (pair.1, ·) := by
        cases o <;> rfl
      have own : find? name (o.map (n, ·)).toList.reverse = if name = n then o else none := by
        cases o <;> simp [find?_cons]
      rw [first, List.reverse_append, find?_append, inductionHypothesis restDistinct, own,
        find?_cons]
      by_cases same : name = n
      · subst same
        have absent : find? name rest = none := by
          rw [Option.eq_none_iff_forall_ne_some]
          intro value found
          exact notAgain (List.mem_map.mpr ⟨(name, value), mem_of_find? found, rfl⟩)
        simp [absent]
      · simp [same]

/-- An entry after writing is the one that was written, or one of before. -/
theorem mem_insert {name : String} {value : α} {entry : String × α} {fields : Fields α}
    (member : entry ∈ insert name value fields) :
    entry = (name, value) ∨ entry ∈ fields := by
  induction fields with
  | nil =>
      left
      simpa [insert] using member
  | cons head rest inductionHypothesis =>
      obtain ⟨n, v⟩ := head
      unfold insert at member
      split at member
      · exact List.mem_cons.mp member
      · split at member
        · rcases List.mem_cons.mp member with atHead | inRest
          · exact Or.inr (List.mem_cons.mpr (Or.inl atHead))
          · exact (inductionHypothesis inRest).imp_right (List.mem_cons_of_mem _)
        · rcases List.mem_cons.mp member with atHead | inRest
          · exact Or.inl atHead
          · exact Or.inr (List.mem_cons_of_mem _ inRest)

/-- An entry of the map that results from writing pairs is one of them. -/
theorem mem_ofList {entry : String × α} {pairs : List (String × α)}
    (member : entry ∈ ofList pairs) : entry ∈ pairs := by
  suffices written : ∀ fields : Fields α,
      entry ∈ pairs.foldl (fun fields pair => insert pair.1 pair.2 fields) fields →
        entry ∈ pairs ∨ entry ∈ fields by
    simpa using written [] member
  clear member
  induction pairs with
  | nil =>
      intro fields old
      exact Or.inr old
  | cons head rest inductionHypothesis =>
      intro fields after
      rcases inductionHypothesis _ after with later | before
      · exact Or.inl (List.mem_cons_of_mem _ later)
      · rcases mem_insert before with here | old
        · exact Or.inl (List.mem_cons.mpr (Or.inl here))
        · exact Or.inr old

/-- The names of the map that results from writing pairs are those of the pairs. -/
theorem mem_names_ofList {name : String} {pairs : List (String × α)} :
    name ∈ (ofList pairs).names ↔ name ∈ pairs.map Prod.fst := by
  constructor
  · intro member
    obtain ⟨entry, there, rfl⟩ := List.mem_map.mp member
    exact List.mem_map_of_mem (mem_ofList there)
  · intro member
    obtain ⟨entry, there, rfl⟩ := List.mem_map.mp member
    cases found : find? entry.1 (ofList pairs) with
    | none =>
        rw [find?_ofList] at found
        have never := List.lookup_eq_none_iff.mp found entry (List.mem_reverse.mpr there)
        simp at never
    | some v => exact List.mem_map.mpr ⟨(entry.1, v), mem_of_find? found, rfl⟩

namespace Sorted

theorem erase {fields : Fields α} (sorted : Sorted fields) (name : String) :
    Sorted (fields.erase name) :=
  sorted.sublist (List.filter_sublist.map Prod.fst)

theorem insert {fields : Fields α} (sorted : Sorted fields) (name : String) (value : α) :
    Sorted (fields.insert name value) := by
  induction fields with
  | nil => simp [Sorted, Fields.insert, names]
  | cons head rest inductionHypothesis =>
      obtain ⟨n, v⟩ := head
      have apart : ∀ m ∈ names rest, n < m := (List.pairwise_cons.mp sorted).1
      have sortedRest : Sorted rest := (List.pairwise_cons.mp sorted).2
      unfold Fields.insert
      split
      · rename_i below
        refine List.pairwise_cons.mpr ⟨?_, sorted⟩
        intro m member
        rcases List.mem_cons.mp member with atHead | inRest
        · exact atHead ▸ below
        · exact String.lt_trans below (apart m inRest)
      · rename_i notBelow
        split
        · rename_i above
          refine List.pairwise_cons.mpr ⟨?_, inductionHypothesis sortedRest⟩
          intro m member
          obtain ⟨entry, inInserted, nameEq⟩ := List.mem_map.mp member
          rcases mem_insert inInserted with written | old
          · rw [← nameEq, written]
            exact above
          · exact nameEq ▸ apart entry.1 (List.mem_map_of_mem old)
        · rename_i notAbove
          have same : name = n := eq_of_not_lt notBelow notAbove
          subst same
          exact List.pairwise_cons.mpr ⟨apart, sortedRest⟩

theorem union {earlier : Fields α} (sorted : Sorted earlier) (later : Fields α) :
    Sorted (union earlier later) := by
  unfold Fields.union
  induction later generalizing earlier with
  | nil => exact sorted
  | cons head rest inductionHypothesis => exact inductionHypothesis (sorted.insert head.1 head.2)

theorem nil : Sorted ([] : Fields α) := List.Pairwise.nil

theorem ofList (pairs : List (String × α)) : Sorted (ofList pairs) := nil.union pairs

theorem filter {fields : Fields α} (sorted : Sorted fields) (keeps : String × α → Bool) :
    Sorted (fields.filter keeps) :=
  sorted.sublist (List.filter_sublist.map Prod.fst)

/-- In an ordered map an entry is what a look-up of its name finds. -/
theorem find?_of_mem {fields : Fields α} (sorted : Sorted fields) {name : String} {value : α}
    (member : (name, value) ∈ fields) : fields.find? name = some value := by
  induction fields with
  | nil => simp at member
  | cons head rest inductionHypothesis =>
      obtain ⟨n, v⟩ := head
      have apart : ∀ m ∈ names rest, n < m := (List.pairwise_cons.mp sorted).1
      rw [find?_cons]
      rcases List.mem_cons.mp member with atHead | inRest
      · cases atHead
        simp
      · have differs : name ≠ n := by
          intro same
          subst same
          exact String.lt_irrefl _ (apart name (List.mem_map_of_mem inRest))
        simp only [differs, if_false]
        exact inductionHypothesis (List.pairwise_cons.mp sorted).2 inRest

theorem find?_eq_some_iff {fields : Fields α} (sorted : Sorted fields) {name : String}
    {value : α} : fields.find? name = some value ↔ (name, value) ∈ fields :=
  ⟨mem_of_find?, sorted.find?_of_mem⟩

/-- In an ordered map no later value hides an earlier one. -/
theorem find?_reverse {fields : Fields α} (sorted : Sorted fields) (name : String) :
    find? name fields.reverse = fields.find? name := by
  induction fields with
  | nil => rfl
  | cons head rest inductionHypothesis =>
      obtain ⟨n, v⟩ := head
      have apart : ∀ m ∈ names rest, n < m := (List.pairwise_cons.mp sorted).1
      rw [List.reverse_cons, find?_append, inductionHypothesis (List.pairwise_cons.mp sorted).2,
        find?_cons, find?_cons, find?_nil]
      by_cases same : name = n
      · subst same
        cases found : find? name rest with
        | none => simp
        | some w =>
            have later := apart name (List.mem_map_of_mem (mem_of_find? found))
            exact absurd later (String.lt_irrefl name)
      · simp [same]

/-- Entries can be left out before or after they are looked up. -/
theorem find?_filter {fields : Fields α} (sorted : Sorted fields) (keeps : String × α → Bool)
    (name : String) :
    find? name (fields.filter keeps) = (fields.find? name).filter fun v => keeps (name, v) := by
  apply Option.ext
  intro value
  rw [(sorted.filter keeps).find?_eq_some_iff, List.mem_filter, Option.filter_eq_some_iff,
    sorted.find?_eq_some_iff]

/-- Ordered maps with the same look-ups are the same. -/
theorem ext {first second : Fields α} (sorted : Sorted first) (sortedSecond : Sorted second)
    (same : ∀ name, first.find? name = second.find? name) : first = second := by
  have ordered : ∀ {fields : Fields α}, Sorted fields →
      fields.Pairwise fun entry other => entry.1 < other.1 := List.pairwise_map.mp
  have distinct : ∀ {fields : Fields α}, Sorted fields → fields.Nodup := fun names =>
    (ordered names).imp fun below same => String.ne_of_lt below (congrArg Prod.fst same)
  have members : ∀ entry, entry ∈ first ↔ entry ∈ second := by
    rintro ⟨name, value⟩
    rw [← sorted.find?_eq_some_iff, ← sortedSecond.find?_eq_some_iff, same]
  have permuted : first.Perm second :=
    (List.perm_ext_iff_of_nodup (distinct sorted) (distinct sortedSecond)).mpr members
  apply permuted.eq_of_pairwise _ (ordered sorted) (ordered sortedSecond)
  intro entry other _ _ below above
  exact absurd (String.lt_trans below above) (String.lt_irrefl _)

end Sorted
end EventDispatch.Fields
