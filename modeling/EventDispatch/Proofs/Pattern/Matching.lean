import EventDispatch.Pattern.Matching
import EventDispatch.Proofs.Pattern.Key
import EventDispatch.Proofs.Pattern.Order
import EventDispatch.Proofs.Pattern.Pairing
/-!
What matching asks of two patterns.

Purpose: a match is decided by tests in turn, any of which may crash. What it asks for when it comes
to its end is told here: a full match of sequences that both are sorted and then match position by
position, one of mappings that the names are the same with matching values; a partial match that
everything that is wanted is there. Patterns whose sequences can all be sorted are matched without a
crash. Where a message matches and both patterns go on under the same names, neither has a sequence
where the other has a mapping.

Main exports: `Json.WellFormed.element`, `Json.WellFormed.value`, `Pattern.Meets`,
`Pattern.meets_array`, `Pattern.meets_object`, `Pattern.Sortable`, `Pattern.exists_matchFully`,
`Pattern.exists_matchPartially`, `Pattern.matchesMessage_self`, `Pattern.under`,
`Pattern.sameShape_of_matchesMessage`.
-/

namespace EventDispatch

/-! ### Well-formed patterns -/

namespace Json.WellFormed

variable {items : List Json} {fields : List (String × Json)}

/-- The elements of a well-formed sequence are well formed. -/
theorem element (formed : WellFormed (.array items)) {p : Json} (member : p ∈ items) :
    p.WellFormed := by
  rw [WellFormed] at formed
  induction items with
  | nil => cases member
  | cons q qs inductionHypothesis =>
      rw [WellFormedItems] at formed
      rcases List.mem_cons.mp member with rfl | later
      · exact formed.1
      · exact inductionHypothesis formed.2 later

/-- The names of a well-formed mapping ascend. -/
theorem sorted (formed : WellFormed (.object fields)) : Fields.Sorted fields := formed.1

/-- The values of a well-formed mapping are well formed. -/
theorem value (formed : WellFormed (.object fields)) {f : String × Json} (member : f ∈ fields) :
    f.2.WellFormed := by
  replace formed := formed.2
  induction fields with
  | nil => cases member
  | cons g gs inductionHypothesis =>
      rw [WellFormedFields] at formed
      rcases List.mem_cons.mp member with rfl | later
      · exact formed.1
      · exact inductionHypothesis later formed.2

end Json.WellFormed

/-! ### Tests in turn -/

section InTurn

variable {α : Type} {test : α → Option Bool} {xs : List α}

theorem allM_cons (test : α → Option Bool) (x : α) (xs : List α) :
    (x :: xs).allM test
      = (test x).bind fun passes => if passes then xs.allM test else some false := by
  rw [List.allM]
  cases test x with
  | none => rfl
  | some passes => cases passes <;> rfl

theorem allM_congr {test' : α → Option Bool} (same : ∀ x ∈ xs, test x = test' x) :
    xs.allM test = xs.allM test' := by
  induction xs with
  | nil => rfl
  | cons x xs inductionHypothesis =>
      obtain ⟨here, later⟩ := List.forall_mem_cons.mp same
      rw [allM_cons, allM_cons, here, inductionHypothesis later]

theorem anyM_cons (test : α → Option Bool) (x : α) (xs : List α) :
    (x :: xs).anyM test
      = (test x).bind fun passes => if passes then some true else xs.anyM test := by
  rw [List.anyM]
  cases test x with
  | none => rfl
  | some passes => cases passes <;> rfl

theorem allM_eq_true_iff : xs.allM test = some true ↔ ∀ x ∈ xs, test x = some true := by
  induction xs with
  | nil => simp [List.allM]
  | cons x xs inductionHypothesis =>
      rw [allM_cons, List.forall_mem_cons, ← inductionHypothesis]
      cases test x with
      | none => simp
      | some passes => cases passes <;> simp

/-- Some test fails if not all are passed. -/
theorem exists_of_allM_eq_false (fails : xs.allM test = some false) :
    ∃ x ∈ xs, test x = some false := by
  induction xs with
  | nil => simp [List.allM] at fails
  | cons x xs inductionHypothesis =>
      rw [allM_cons] at fails
      cases outcome : test x with
      | none => simp [outcome] at fails
      | some passes =>
          cases passes with
          | false => exact ⟨x, List.mem_cons_self, outcome⟩
          | true =>
              rw [outcome] at fails
              obtain ⟨y, member, here⟩ := inductionHypothesis fails
              exact ⟨y, List.mem_cons_of_mem x member, here⟩

theorem exists_allM (ends : ∀ x ∈ xs, ∃ passes, test x = some passes) :
    ∃ passes, xs.allM test = some passes := by
  induction xs with
  | nil => exact ⟨true, rfl⟩
  | cons x xs inductionHypothesis =>
      obtain ⟨⟨passes, here⟩, others⟩ := List.forall_mem_cons.mp ends
      rw [allM_cons, here]
      cases passes with
      | false => exact ⟨false, rfl⟩
      | true => exact inductionHypothesis others

/-- Some test is passed if one is found. -/
theorem exists_of_anyM_eq_true (passed : xs.anyM test = some true) :
    ∃ x ∈ xs, test x = some true := by
  induction xs with
  | nil => simp [List.anyM] at passed
  | cons x xs inductionHypothesis =>
      rw [anyM_cons] at passed
      cases outcome : test x with
      | none => simp [outcome] at passed
      | some passes =>
          cases passes with
          | true => exact ⟨x, List.mem_cons_self, outcome⟩
          | false =>
              rw [outcome] at passed
              obtain ⟨y, member, here⟩ := inductionHypothesis passed
              exact ⟨y, List.mem_cons_of_mem x member, here⟩

theorem anyM_eq_false_iff : xs.anyM test = some false ↔ ∀ x ∈ xs, test x = some false := by
  induction xs with
  | nil => simp [List.anyM]
  | cons x xs inductionHypothesis =>
      rw [anyM_cons, List.forall_mem_cons, ← inductionHypothesis]
      cases test x with
      | none => simp
      | some passes => cases passes <;> simp

theorem exists_anyM (ends : ∀ x ∈ xs, ∃ passes, test x = some passes) :
    ∃ passes, xs.anyM test = some passes := by
  induction xs with
  | nil => exact ⟨false, rfl⟩
  | cons x xs inductionHypothesis =>
      obtain ⟨⟨passes, here⟩, others⟩ := List.forall_mem_cons.mp ends
      rw [anyM_cons, here]
      cases passes with
      | true => exact ⟨true, rfl⟩
      | false => exact inductionHypothesis others

end InTurn

namespace Pattern

/-- What passes from the elements and the values to a composite holds of every pattern. -/
@[elab_as_elim]
theorem inductionOn {holds : Json → Prop} (p : Json)
    (primitive : ∀ p, isPrimitive p = true → holds p)
    (array : ∀ items : List Json, (∀ p ∈ items, holds p) → holds (.array items))
    (object : ∀ fields : List (String × Json), (∀ f ∈ fields, holds f.2) →
      holds (.object fields)) : holds p :=
  @Json.rec holds (fun items => ∀ p ∈ items, holds p) (fun fields => ∀ f ∈ fields, holds f.2)
    (fun f => holds f.2) (primitive .null rfl) (fun _ => primitive _ rfl)
    (fun _ => primitive _ rfl) (fun _ => primitive _ rfl) array object (by simp)
    (fun _ _ here later => List.forall_mem_cons.mpr ⟨here, later⟩) (by simp)
    (fun _ _ here later => List.forall_mem_cons.mpr ⟨here, later⟩) (fun _ _ here => here) p

/-- Primitives are of other kinds than composites. -/
theorem isPrimitive_of_rank_eq {p q : Pattern} (kinds : rank p = rank q)
    (primitive : isPrimitive p = true) : isPrimitive q = true := by
  have ranks : ∀ p : Pattern, isPrimitive p = true ↔ rank p < 4 := by
    intro p
    cases p <;> simp [isPrimitive, rank]
  rw [ranks] at primitive ⊢
  omega

/-! ### What a full match asks -/

/-- A full match. -/
abbrev Meets (h m : Pattern) : Prop := matchesMessage false h m = some true

theorem fullTests_eq_map (hs : List Json) : fullTests hs = hs.map matchFully := by
  induction hs with
  | nil => rfl
  | cons h hs inductionHypothesis => rw [fullTests, inductionHypothesis, List.map_cons]

theorem fullFieldTests_eq_map (hs : List (String × Json)) :
    fullFieldTests hs = hs.map fun f => (f.1, matchFully f.2) := by
  induction hs with
  | nil => rfl
  | cons f hs inductionHypothesis => rw [fullFieldTests, inductionHypothesis, List.map_cons]

/-- Messages pass as many tests if each passes the test at its place. -/
theorem passInTurn_iff {tests : List Test} {ms : List Json} (length : tests.length = ms.length) :
    passInTurn tests ms = some true ↔ List.Forall₂ (fun test m => test m = some true) tests ms := by
  rw [passInTurn, allM_eq_true_iff, List.forall₂_iff_zip]
  simp [length]

theorem passByName_cons (test : String × Test) (tests : List (String × Test)) (m : String × Json)
    (ms : List (String × Json)) : passByName (test :: tests) (m :: ms) =
      if test.1 = m.1 then
        (test.2 m.2).bind fun passes => if passes then passByName tests ms else some false
      else passByName tests (m :: ms) := rfl

/-- As many values pass the tests under their names if the names are the same, and each value passes
the test at its place. -/
theorem passByName_iff {tests : List (String × Test)} {ms : List (String × Json)}
    (length : tests.length = ms.length) : passByName tests ms = some true ↔
      List.Forall₂ (fun test m => test.1 = m.1 ∧ test.2 m.2 = some true) tests ms := by
  have enough : ∀ {tests : List (String × Test)} {ms : List (String × Json)},
      passByName tests ms = some true → ms.length ≤ tests.length := by
    intro tests
    induction tests with
    | nil =>
        intro ms passes
        cases ms with
        | nil => exact Nat.le_refl 0
        | cons m ms => exact nomatch passes
    | cons test tests inductionHypothesis =>
        intro ms passes
        cases ms with
        | nil => exact Nat.zero_le _
        | cons m ms =>
            rw [passByName_cons] at passes
            split at passes
            · rw [Option.bind_eq_some_iff] at passes
              obtain ⟨here, _, later⟩ := passes
              split at later
              · exact Nat.succ_le_succ (inductionHypothesis later)
              · cases later
            · exact Nat.le_succ_of_le (inductionHypothesis passes)
  induction tests generalizing ms with
  | nil =>
      rw [List.length_eq_zero_iff.mp length.symm]
      simp [passByName]
  | cons test tests inductionHypothesis =>
      cases ms with
      | nil => cases length
      | cons m ms =>
          rw [List.length_cons, List.length_cons, Nat.succ_inj] at length
          rw [passByName_cons, List.forall₂_cons]
          refine Iff.trans ?_ (and_congr_right fun _ => inductionHypothesis length)
          by_cases same : test.1 = m.1
          · rw [if_pos same]
            cases test.2 m.2 with
            | none => simp
            | some passes => cases passes <;> simp [same]
          · rw [if_neg same]
            constructor
            · intro passes
              have longer := enough passes
              rw [List.length_cons, length] at longer
              exact absurd longer (Nat.not_succ_le_self _)
            · rintro ⟨⟨here, _⟩, _⟩
              exact absurd here same

/-- A value whose name no test has is not passed. -/
theorem passByName_of_absent {tests : List (String × Test)} {m : String × Json}
    (absent : Fields.find? m.1 tests = none) (ms : List (String × Json)) :
    passByName tests (m :: ms) = some false := by
  induction tests with
  | nil => rfl
  | cons test tests inductionHypothesis =>
      rw [Fields.find?_cons] at absent
      split at absent
      · cases absent
      · rename_i other
        rw [passByName_cons, if_neg (Ne.symm other)]
        exact inductionHypothesis absent

/-- Values that come after the first test are not looked up there. -/
theorem allM_lookup_cons {test : String × Test} {ms : List (String × Json)}
    (after : ∀ m ∈ ms, test.1 < m.1) (tests : List (String × Test)) :
    (ms.allM fun m => (Fields.find? m.1 (test :: tests)).elim (some false) (· m.2)) =
      ms.allM fun m => (Fields.find? m.1 tests).elim (some false) (· m.2) := by
  refine allM_congr fun m member => ?_
  rw [Fields.find?_cons, if_neg (Ne.symm (String.ne_of_lt (after m member)))]

/-- The tests of an ordered mapping are those that are looked up under the names of the values. -/
theorem passByName_eq_allM {tests : List (String × Test)} {ms : List (String × Json)}
    (sorted : Fields.Sorted tests) (sorted' : Fields.Sorted ms) : passByName tests ms =
      ms.allM fun m => (Fields.find? m.1 tests).elim (some false) (· m.2) := by
  induction tests generalizing ms with
  | nil => cases ms <;> rfl
  | cons test tests inductionHypothesis =>
      cases ms with
      | nil => rfl
      | cons m ms =>
          have belowTests := List.pairwise_cons.mp sorted
          have belowMs := List.pairwise_cons.mp sorted'
          have after : ∀ g ∈ ms, m.1 < g.1 := fun g member =>
            belowMs.1 _ (List.mem_map_of_mem member)
          cases found : Fields.find? m.1 (test :: tests) with
          | none =>
              rw [passByName_of_absent found, allM_cons, found, Option.elim_none, Option.bind_some,
                if_neg Bool.false_ne_true]
          | some own =>
              rw [passByName_cons]
              by_cases same : test.1 = m.1
              · rw [if_pos same, inductionHypothesis belowTests.2 belowMs.2,
                  ← allM_lookup_cons (same ▸ after), allM_cons, Fields.find?_cons,
                  if_pos same.symm, Option.elim_some]
              · rw [if_neg same, inductionHypothesis belowTests.2 sorted', allM_lookup_cons]
                -- A later test has the name of the first value, so the first test is before it.
                rw [Fields.find?_cons, if_neg (Ne.symm same)] at found
                have before : test.1 < m.1 :=
                  belowTests.1 _ (List.mem_map_of_mem (Fields.mem_of_find? found))
                exact List.forall_mem_cons.mpr
                  ⟨before, fun g member => String.lt_trans before (after g member)⟩

/-- How sequences are matched. -/
theorem matchFully_array (hs ms : List Json) : matchesMessage false (.array hs) (.array ms) =
    if hs.length = ms.length then
      ((sorted hs).map (List.map matchFully)).bind fun tests =>
        (sorted ms).bind fun ms' => passInTurn tests ms'
    else some false := by
  rw [← inOrder_map, ← fullTests_eq_map]
  rfl

/-- How mappings are matched. -/
theorem matchFully_object (hs ms : List (String × Json)) :
    matchesMessage false (.object hs) (.object ms) =
      if hs.length = ms.length then passByName (hs.map fun f => (f.1, matchFully f.2)) ms
      else some false := by
  rw [← fullFieldTests_eq_map]
  rfl

/-- Ordered mappings are matched by their numbers of names, and by looking up each name of the
message among those of the handler. -/
theorem matchFully_object_of_sorted {hs ms : List (String × Json)} (sorted : Fields.Sorted hs)
    (sorted' : Fields.Sorted ms) : matchesMessage false (.object hs) (.object ms) =
      if hs.length = ms.length then
        ms.allM fun m => (Fields.find? m.1 hs).elim (some false) fun h => matchesMessage false h m.2
      else some false := by
  rw [matchFully_object]
  congr 1
  have tests : Fields.Sorted (hs.map fun f => (f.1, matchFully f.2)) := by
    rwa [Fields.Sorted, Fields.names, List.map_map]
  rw [passByName_eq_allM tests sorted']
  refine allM_congr fun m _ => ?_
  rw [Fields.find?_map]
  cases Fields.find? m.1 hs <;> rfl

/-- Sequences match when both can be sorted, and then match position by position. -/
theorem meets_array {hs ms : List Json} : Meets (.array hs) (.array ms) ↔
    ∃ hs' ms', sorted hs = some hs' ∧ sorted ms = some ms' ∧ List.Forall₂ Meets hs' ms' := by
  rw [Meets, matchFully_array]
  constructor
  · intro passes
    split at passes
    · rename_i length
      simp only [Option.bind_eq_some_iff, Option.map_eq_some_iff] at passes
      obtain ⟨_, ⟨hs', sortsH, rfl⟩, ms', sortsM, passes⟩ := passes
      refine ⟨hs', ms', sortsH, sortsM, ?_⟩
      rw [passInTurn_iff, List.forall₂_map_left_iff] at passes
      · exact passes
      · rw [List.length_map, (sorted_perm sortsH).length_eq, (sorted_perm sortsM).length_eq, length]
    · cases passes
  · rintro ⟨hs', ms', sortsH, sortsM, related⟩
    have length : hs.length = ms.length := by
      rw [← (sorted_perm sortsH).length_eq, ← (sorted_perm sortsM).length_eq, related.length_eq]
    rw [if_pos length, sortsH, sortsM]
    simp only [Option.map_some, Option.bind_some]
    rw [passInTurn_iff (by rw [List.length_map, related.length_eq]), List.forall₂_map_left_iff]
    exact related

/-- Mappings match when they have the same names with matching values. -/
theorem meets_object {hs ms : List (String × Json)} :
    Meets (.object hs) (.object ms)
      ↔ List.Forall₂ (fun h m => h.1 = m.1 ∧ Meets h.2 m.2) hs ms := by
  rw [Meets, matchFully_object]
  constructor
  · intro passes
    split at passes
    · rename_i length
      rwa [passByName_iff (by rwa [List.length_map]), List.forall₂_map_left_iff] at passes
    · cases passes
  · intro related
    rw [if_pos related.length_eq, passByName_iff (by rw [List.length_map, related.length_eq]),
      List.forall₂_map_left_iff]
    exact related

/-- A primitive is compared, by either rule. -/
theorem matchesMessage_of_isPrimitive (partially : Bool) {h : Pattern}
    (primitive : isPrimitive h = true) (m : Pattern) :
    matchesMessage partially h m = some (samePrimitive h m) := by
  cases h with
  | array hs => exact nomatch primitive
  | object hs => exact nomatch primitive
  | _ => cases partially <;> cases m <;> rfl

/-- A primitive matches the same primitive only. -/
theorem meets_of_isPrimitive {h m : Pattern} (primitive : isPrimitive h = true) :
    Meets h m ↔ samePrimitive h m = true := by
  rw [Meets, matchesMessage_of_isPrimitive false primitive, Option.some.injEq]

/-- Patterns that match are of one kind. -/
theorem rank_eq_of_matchesMessage {partially : Bool} {h m : Pattern}
    (qualifies : matchesMessage partially h m = some true) : rank h = rank m := by
  cases partially <;> cases h <;> cases m <;> first | rfl | exact nomatch qualifies

theorem rank_eq_of_meets {h m : Pattern} (meets : Meets h m) : rank h = rank m :=
  rank_eq_of_matchesMessage meets

theorem exists_array_of_meets {hs : List Json} {m : Pattern} (meets : Meets (.array hs) m) :
    ∃ ms, m = .array ms := by
  cases m with
  | array ms => exact ⟨ms, rfl⟩
  | _ => cases rank_eq_of_meets meets

theorem exists_object_of_meets {hs : List (String × Json)} {m : Pattern}
    (meets : Meets (.object hs) m) : ∃ ms, m = .object ms := by
  cases m with
  | object ms => exact ⟨ms, rfl⟩
  | _ => cases rank_eq_of_meets meets

/-! ### What a partial match asks -/

theorem partialTests_eq_map (hs : List Json) : partialTests hs = hs.map matchPartially := by
  induction hs with
  | nil => rfl
  | cons h hs inductionHypothesis => rw [partialTests, inductionHypothesis, List.map_cons]

/-- How a sequence is looked for in another one. -/
theorem matchPartially_array (hs ms : List Json) : matchesMessage true (.array hs) (.array ms) =
    ((sorted hs).map (List.map matchPartially)).bind fun tests =>
      tests.allM fun test => ms.anyM test := by
  rw [← inOrder_map, ← partialTests_eq_map]
  rfl

/-- How a mapping is looked for in another one. -/
theorem matchPartially_object (hs ms : List (String × Json)) :
    matchesMessage true (.object hs) (.object ms) =
      hs.allM fun f => (Fields.find? f.1 ms).elim (some false) (matchPartially f.2) := by
  have inTurn : matchFieldsPartially ms hs =
      hs.allM fun f => (Fields.find? f.1 ms).elim (some false) (matchPartially f.2) := by
    induction hs with
    | nil => rfl
    | cons f hs inductionHypothesis =>
        rw [allM_cons, ← inductionHypothesis, matchFieldsPartially]
        cases Fields.find? f.1 ms with
        | none => rfl
        | some m => rfl
  exact inTurn

/-- Where a sequence is held, every element is held by some element of the message. -/
theorem exists_of_array_held {hs ms : List Json}
    (held : matchesMessage true (.array hs) (.array ms) = some true) {h : Json} (wanted : h ∈ hs) :
    ∃ m ∈ ms, matchesMessage true h m = some true := by
  simp only [matchPartially_array, Option.bind_eq_some_iff, Option.map_eq_some_iff] at held
  obtain ⟨_, ⟨hs', sorts, rfl⟩, passes⟩ := held
  have own := List.mem_map_of_mem (f := matchPartially) ((sorted_perm sorts).mem_iff.mpr wanted)
  exact exists_of_anyM_eq_true (allM_eq_true_iff.mp passes _ own)

theorem exists_sorted_of_array_held {hs ms : List Json}
    (held : matchesMessage true (.array hs) (.array ms) = some true) :
    ∃ others, sorted hs = some others := by
  simp only [matchPartially_array, Option.bind_eq_some_iff, Option.map_eq_some_iff] at held
  obtain ⟨_, ⟨hs', sorts, -⟩, -⟩ := held
  exact ⟨hs', sorts⟩

/-- Where it is not, some element is held by none. -/
theorem exists_of_array_not_held {hs ms : List Json}
    (fails : matchesMessage true (.array hs) (.array ms) = some false) :
    ∃ h ∈ hs, ∀ m ∈ ms, matchesMessage true h m = some false := by
  simp only [matchPartially_array, Option.bind_eq_some_iff, Option.map_eq_some_iff] at fails
  obtain ⟨_, ⟨hs', sorts, rfl⟩, fails⟩ := fails
  obtain ⟨_, own, nowhere⟩ := exists_of_allM_eq_false fails
  obtain ⟨h, member, rfl⟩ := List.mem_map.mp own
  exact ⟨h, (sorted_perm sorts).mem_iff.mp member, anyM_eq_false_iff.mp nowhere⟩

/-- Where a mapping is held, every value is held by the message's value under its name. -/
theorem object_held_iff {hs ms : List (String × Json)} :
    matchesMessage true (.object hs) (.object ms) = some true ↔
      ∀ f ∈ hs, ∃ m, Fields.find? f.1 ms = some m ∧ matchesMessage true f.2 m = some true := by
  rw [matchPartially_object, allM_eq_true_iff]
  refine forall₂_congr fun f _ => ?_
  cases Fields.find? f.1 ms with
  | none => simp
  | some m => simp [matchesMessage]

/-- Where it is not, some value is not held by any under its name. -/
theorem exists_of_object_not_held {hs ms : List (String × Json)}
    (fails : matchesMessage true (.object hs) (.object ms) = some false) :
    ∃ f ∈ hs, ∀ m, Fields.find? f.1 ms = some m → matchesMessage true f.2 m = some false := by
  rw [matchPartially_object] at fails
  obtain ⟨f, own, nowhere⟩ := exists_of_allM_eq_false fails
  refine ⟨f, own, ?_⟩
  intro m found
  rw [found] at nowhere
  exact nowhere

/-! ### Matching without a crash -/

/-- Every sequence of a pattern, at any depth, can be sorted. -/
inductive Sortable : Pattern → Prop where
  | primitive {p : Json} (primitive : isPrimitive p = true) : Sortable p
  | sequence {items others : List Json} (sorts : sorted items = some others)
      (elements : ∀ p ∈ items, Sortable p) : Sortable (.array items)
  | mapping {fields : List (String × Json)} (values : ∀ f ∈ fields, Sortable f.2) :
      Sortable (.object fields)

theorem exists_passByName {tests : List (String × Test)} {ms : List (String × Json)}
    (ends : ∀ test ∈ tests, ∀ m ∈ ms, ∃ passes, test.2 m.2 = some passes) :
    ∃ passes, passByName tests ms = some passes := by
  induction tests generalizing ms with
  | nil => cases ms <;> exact ⟨_, rfl⟩
  | cons test tests inductionHypothesis =>
      cases ms with
      | nil => exact ⟨_, rfl⟩
      | cons m ms =>
          obtain ⟨own, others⟩ := List.forall_mem_cons.mp ends
          rw [passByName_cons]
          split
          · obtain ⟨passes, here⟩ := own m List.mem_cons_self
            rw [here]
            cases passes with
            | false => exact ⟨_, rfl⟩
            | true =>
                exact inductionHypothesis fun test member f inMs =>
                  others test member f (List.mem_cons_of_mem m inMs)
          · exact inductionHypothesis others

/-- Patterns whose sequences can be sorted are matched fully without a crash. -/
theorem exists_matchFully {h : Pattern} : ∀ {m : Pattern}, Sortable h → Sortable m →
    ∃ passes, matchesMessage false h m = some passes := by
  induction h using inductionOn with
  | primitive h primitive =>
      intro m _ _
      exact ⟨_, matchesMessage_of_isPrimitive false primitive m⟩
  | array hs inductionHypothesis =>
      intro m sortable sortable'
      cases m with
      | array ms =>
          cases sortable with
          | primitive primitive => exact nomatch primitive
          | sequence sorts elements =>
              cases sortable' with
              | primitive primitive => exact nomatch primitive
              | sequence sorts' elements' =>
                  rw [matchFully_array, sorts, sorts']
                  split
                  · apply exists_allM
                    rintro ⟨test, m⟩ member
                    obtain ⟨h, inHs, rfl⟩ := List.mem_map.mp (List.of_mem_zip member).1
                    have own := (sorted_perm sorts).mem_iff.mp inHs
                    have there := (sorted_perm sorts').mem_iff.mp (List.of_mem_zip member).2
                    exact inductionHypothesis h own (elements h own) (elements' m there)
                  · exact ⟨_, rfl⟩
      | _ => exact ⟨_, rfl⟩
  | object hs inductionHypothesis =>
      intro m sortable sortable'
      cases m with
      | object ms =>
          cases sortable with
          | primitive primitive => exact nomatch primitive
          | mapping values =>
              cases sortable' with
              | primitive primitive => exact nomatch primitive
              | mapping values' =>
                  rw [matchFully_object]
                  split
                  · apply exists_passByName
                    intro test member m there
                    obtain ⟨f, own, rfl⟩ := List.mem_map.mp member
                    exact inductionHypothesis f own (values f own) (values' m there)
                  · exact ⟨_, rfl⟩
      | _ => exact ⟨_, rfl⟩

/-- Of a partial match only the handler's sequences are sorted. -/
theorem exists_matchPartially {h : Pattern} (sortable : Sortable h) :
    ∀ m : Pattern, ∃ passes, matchesMessage true h m = some passes := by
  induction sortable with
  | primitive primitive => exact fun m => ⟨_, matchesMessage_of_isPrimitive true primitive m⟩
  | sequence sorts _ inductionHypothesis =>
      intro m
      cases m with
      | array ms =>
          rw [matchPartially_array, sorts]
          apply exists_allM
          intro test member
          obtain ⟨h, inHs, rfl⟩ := List.mem_map.mp member
          exact exists_anyM fun m _ =>
            inductionHypothesis h ((sorted_perm sorts).mem_iff.mp inHs) m
      | _ => exact ⟨_, rfl⟩
  | mapping _ inductionHypothesis =>
      intro m
      cases m with
      | object ms =>
          rw [matchPartially_object]
          apply exists_allM
          intro f own
          cases Fields.find? f.1 ms with
          | none => exact ⟨_, rfl⟩
          | some m => exact inductionHypothesis f own m
      | _ => exact ⟨_, rfl⟩

/-- Patterns that match can be sorted. -/
theorem sortable_of_meets (h : Pattern) :
    ∀ {m : Pattern}, Meets h m → Sortable h ∧ Sortable m := by
  induction h using inductionOn with
  | primitive h primitive =>
      intro m meets
      exact ⟨.primitive primitive,
        .primitive (isPrimitive_of_rank_eq (rank_eq_of_meets meets) primitive)⟩
  | array hs inductionHypothesis =>
      intro m meets
      obtain ⟨ms, rfl⟩ := exists_array_of_meets meets
      obtain ⟨hs', ms', sorts, sorts', related⟩ := meets_array.mp meets
      constructor
      · refine .sequence sorts ?_
        intro p own
        obtain ⟨q, _, matched⟩ :=
          exists_of_forall₂ related ((sorted_perm sorts).mem_iff.mpr own)
        exact (inductionHypothesis p own matched).1
      · refine .sequence sorts' ?_
        intro q own
        obtain ⟨p, member, matched⟩ :=
          exists_of_forall₂ related.flip ((sorted_perm sorts').mem_iff.mpr own)
        exact (inductionHypothesis p ((sorted_perm sorts).mem_iff.mp member) matched).2
  | object hs inductionHypothesis =>
      intro m meets
      obtain ⟨ms, rfl⟩ := exists_object_of_meets meets
      have related := meets_object.mp meets
      constructor
      · refine .mapping ?_
        intro f own
        obtain ⟨g, _, _, matched⟩ := exists_of_forall₂ related own
        exact (inductionHypothesis f own matched).1
      · refine .mapping ?_
        intro g own
        obtain ⟨f, member, _, matched⟩ := exists_of_forall₂ related.flip own
        exact (inductionHypothesis f member matched).2

/-! ### A pattern matches itself -/

theorem sameValue_self (x : Number) : x.sameValue x = true := by
  cases x <;> simp [Number.sameValue, Double.sameValue]

theorem samePrimitive_self {p : Pattern} (primitive : isPrimitive p = true) :
    samePrimitive p p = true := by
  cases p with
  | number x => exact sameValue_self x
  | array items => exact nomatch primitive
  | object fields => exact nomatch primitive
  | _ => simp [samePrimitive]

/-- Values that do not pass tests under their own names fail one of them. -/
theorem exists_of_passByName_self {test : Json → Test} {fields : List (String × Json)}
    (fails : passByName (fields.map fun f => (f.1, test f.2)) fields = some false) :
    ∃ f ∈ fields, test f.2 f.2 = some false := by
  induction fields with
  | nil => exact nomatch fails
  | cons f fields inductionHypothesis =>
      rw [List.map_cons, passByName_cons, if_pos rfl] at fails
      dsimp only at fails
      cases outcome : test f.2 f.2 with
      | none => simp [outcome] at fails
      | some passes =>
          cases passes with
          | false => exact ⟨f, List.mem_cons_self, outcome⟩
          | true =>
              rw [outcome] at fails
              obtain ⟨g, member, here⟩ := inductionHypothesis fails
              exact ⟨g, List.mem_cons_of_mem f member, here⟩

/-- A full match of a pattern with itself does not fail. -/
theorem fully_self_ne_false (p : Pattern) : matchesMessage false p p ≠ some false := by
  induction p using inductionOn with
  | primitive p primitive =>
      simp [matchesMessage_of_isPrimitive false primitive, samePrimitive_self primitive]
  | array items inductionHypothesis =>
      intro fails
      rw [matchFully_array, if_pos rfl] at fails
      simp only [Option.bind_eq_some_iff, Option.map_eq_some_iff] at fails
      obtain ⟨_, ⟨others, sorts, rfl⟩, others', sorts', fails⟩ := fails
      cases sorts.symm.trans sorts'
      obtain ⟨pair, member, here⟩ := exists_of_allM_eq_false fails
      rw [← List.map_prod_right_eq_zip] at member
      obtain ⟨p, own, rfl⟩ := List.mem_map.mp member
      exact inductionHypothesis p ((sorted_perm sorts).mem_iff.mp own) here
  | object fields inductionHypothesis =>
      intro fails
      rw [matchFully_object, if_pos rfl] at fails
      obtain ⟨f, own, here⟩ := exists_of_passByName_self fails
      exact inductionHypothesis f own here

/-- Nor does a partial one. -/
theorem partially_self_ne_false {p : Pattern} (formed : p.WellFormed) :
    matchesMessage true p p ≠ some false := by
  induction p using inductionOn with
  | primitive p primitive =>
      simp [matchesMessage_of_isPrimitive true primitive, samePrimitive_self primitive]
  | array items inductionHypothesis =>
      intro fails
      obtain ⟨p, own, nowhere⟩ := exists_of_array_not_held fails
      exact inductionHypothesis p own (formed.element own) (nowhere p own)
  | object fields inductionHypothesis =>
      intro fails
      obtain ⟨f, own, nowhere⟩ := exists_of_object_not_held fails
      exact inductionHypothesis f own (formed.value own)
        (nowhere f.2 (formed.sorted.find?_of_mem own))

/-- A pattern matches itself under either rule, unless sorting one of its sequences crashes. -/
theorem matchesMessage_self (partially : Bool) {p : Pattern} (formed : p.WellFormed) :
    matchesMessage partially p p = some true ∨
      (matchesMessage partially p p = none ∧ ¬ Sortable p) := by
  have ends : Sortable p → ∃ passes, matchesMessage partially p p = some passes := by
    intro sortable
    cases partially with
    | false => exact exists_matchFully sortable sortable
    | true => exact exists_matchPartially sortable p
  have holds : matchesMessage partially p p ≠ some false := by
    cases partially with
    | false => exact fully_self_ne_false p
    | true => exact partially_self_ne_false formed
  cases outcome : matchesMessage partially p p with
  | none =>
      refine Or.inr ⟨rfl, ?_⟩
      intro sortable
      obtain ⟨passes, decided⟩ := ends sortable
      rw [outcome] at decided
      cases decided
  | some passes =>
      cases passes with
      | false => exact absurd outcome holds
      | true => exact Or.inl rfl

theorem meets_self {p : Pattern} (sortable : Sortable p) : Meets p p := by
  obtain ⟨passes, decided⟩ := exists_matchFully sortable sortable
  cases passes with
  | false => exact absurd decided (fully_self_ne_false p)
  | true => exact decided

/-! ### Shapes under names -/

/-- What a pattern has under names, one below the other. -/
def under : List String → Pattern → Option Pattern
  | [], p => some p
  | name :: names, p => (p.get? name).bind (under names)

/-- One of two patterns is a sequence where the other is a mapping. -/
def shapesDiffer : Pattern → Pattern → Bool
  | .array _, .object _ => true
  | .object _, .array _ => true
  | _, _ => false

theorem shapesDiffer_cases {a b : Pattern} (differ : shapesDiffer a b = true) :
    (∃ items fields, a = .array items ∧ b = .object fields) ∨
      ∃ fields items, a = .object fields ∧ b = .array items := by
  unfold shapesDiffer at differ
  split at differ
  · exact Or.inl ⟨_, _, rfl, rfl⟩
  · exact Or.inr ⟨_, _, rfl, rfl⟩
  · exact absurd differ (by simp)

/-- Only a mapping has something under a name. -/
theorem under_cons {name : String} {names : List String} {p a : Pattern}
    (reached : under (name :: names) p = some a) :
    ∃ fields q, p = .object fields ∧ Fields.find? name fields = some q ∧
      under names q = some a := by
  rw [under, Option.bind_eq_some_iff] at reached
  obtain ⟨q, found, below⟩ := reached
  cases p with
  | object fields => exact ⟨fields, q, rfl, found, below⟩
  | _ => exact absurd found (by simp [Json.get?])

/-- What passes from two mappings to their values under a name, passes to all that they have under
the same names. -/
theorem rel_under {R : Pattern → Pattern → Prop}
    (down : ∀ {fields others : List (String × Json)} {name : String} {p q : Json},
      R (.object fields) (.object others) → Fields.find? name fields = some p →
        Fields.find? name others = some q → R p q)
    {way : List String} {p q a b : Pattern} (related : R p q) (reached : under way p = some a)
    (reached' : under way q = some b) : R a b := by
  induction way generalizing p q with
  | nil =>
      cases reached
      cases reached'
      exact related
  | cons name names inductionHypothesis =>
      obtain ⟨fields, p', rfl, found, below⟩ := under_cons reached
      obtain ⟨others, q', rfl, found', below'⟩ := under_cons reached'
      exact inductionHypothesis (down related found found') below below'

/-- Under a name that both mappings have, the values match by the same rule. -/
theorem matchesMessage_under_name {partially : Bool} {hs ms : List (String × Json)} {name : String}
    {h m : Json} (qualifies : matchesMessage partially (.object hs) (.object ms) = some true)
    (wanted : Fields.find? name hs = some h) (found : Fields.find? name ms = some m) :
    matchesMessage partially h m = some true := by
  cases partially with
  | true =>
      obtain ⟨m', found', held⟩ := object_held_iff.mp qualifies _ (Fields.mem_of_find? wanted)
      rw [found] at found'
      rwa [Option.some.inj found']
  | false =>
      have related := meets_object.mp qualifies
      clear qualifies
      induction related with
      | nil => simp at wanted
      | @cons f g hs ms pair related inductionHypothesis =>
          rw [Fields.find?_cons] at wanted found
          rw [← pair.1] at found
          split at wanted
          · rename_i here
            rw [if_pos here] at found
            cases wanted
            cases found
            exact pair.2
          · rename_i elsewhere
            rw [if_neg elsewhere] at found
            exact inductionHypothesis wanted found

/-- A message that matches has no sequence under names where the handler's pattern has a mapping,
nor the other way round. -/
theorem sameShape_of_matchesMessage {partially : Bool} {way : List String} {h m a b : Pattern}
    (qualifies : matchesMessage partially h m = some true) (wanted : under way h = some a)
    (reached : under way m = some b) : shapesDiffer a b = false := by
  have below := rel_under (R := fun p q => matchesMessage partially p q = some true)
    matchesMessage_under_name qualifies wanted reached
  apply Bool.eq_false_iff.mpr
  intro differ
  have kinds := rank_eq_of_matchesMessage below
  rcases shapesDiffer_cases differ with ⟨_, _, rfl, rfl⟩ | ⟨_, _, rfl, rfl⟩
  · cases kinds
  · cases kinds

end Pattern
end EventDispatch
