import EventDispatch.Proofs.Pattern.Equivalence
import Mathlib.Logic.Relation
/-!
The partial match as containment.

Purpose: a message that matches a pattern fully matches it partially. One pattern lies within
another when each element of a sequence lies within some element of the other, and each name of a
mapping is there with a value that its value lies within. A partial match is this relation with
numbers compared by value. Containments in a row make a containment, so a partial match survives
when the handler asks for less and the message says more; a message that grows by attributes and
elements says more.

Main exports: `Pattern.partially_of_meets`, `Pattern.Within`, `Pattern.Contained`,
`Pattern.within_of_partially`, `Pattern.partially_of_within`, `Pattern.Grows`,
`Pattern.contained_of_grows`, `Pattern.partial_match_monotone`.
-/

namespace EventDispatch.Pattern

open scoped List

/-! ### Full and partial matches -/

/-- A partial match does not fail where the message matches fully. -/
theorem partially_ne_false_of_meets {h m : Pattern} (formed : m.WellFormed) (meets : Meets h m) :
    matchesMessage true h m ≠ some false := by
  induction h using inductionOn generalizing m with
  | primitive h primitive =>
      rw [matchesMessage_of_isPrimitive true primitive, (meets_of_isPrimitive primitive).mp meets]
      decide
  | array hs inductionHypothesis =>
      intro fails
      obtain ⟨ms, rfl⟩ := exists_array_of_meets meets
      obtain ⟨hs', ms', sorts, sorts', related⟩ := meets_array.mp meets
      obtain ⟨h, own, nowhere⟩ := exists_of_array_not_held fails
      -- The partner of an element is the one at its place once both sequences are sorted.
      obtain ⟨m, present, matched⟩ :=
        exists_of_forall₂ related ((sorted_perm sorts).mem_iff.mpr own)
      have member : m ∈ ms := (sorted_perm sorts').mem_iff.mp present
      exact inductionHypothesis h own (formed.element member) matched (nowhere m member)
  | object hs inductionHypothesis =>
      intro fails
      obtain ⟨ms, rfl⟩ := exists_object_of_meets meets
      obtain ⟨f, own, nowhere⟩ := exists_of_object_not_held fails
      obtain ⟨⟨_, m⟩, member, rfl, matched⟩ := exists_of_forall₂ (meets_object.mp meets) own
      exact inductionHypothesis f own (formed.value member) matched
        (nowhere m (formed.sorted.find?_of_mem member))

/-- A message that matches fully matches partially. -/
theorem partially_of_meets {h m : Pattern} (formed : m.WellFormed) (meets : Meets h m) :
    matchesMessage true h m = some true := by
  obtain ⟨passes, ends⟩ := exists_matchPartially (sortable_of_meets h meets).1 m
  cases passes with
  | false => exact absurd ends (partially_ne_false_of_meets formed meets)
  | true => exact ends

/-! ### Containment -/

/-- The first pattern lies within the second. Primitives are related; a sequence has for each of its
elements one of the other's elements that it lies within; a mapping has no names that the other one
lacks, and its values lie within the other's values. -/
inductive Within (R : Pattern → Pattern → Prop) : Pattern → Pattern → Prop where
  | primitive {x y : Json} (left : isPrimitive x = true) (right : isPrimitive y = true)
      (related : R x y) : Within R x y
  | sequence {xs ys : List Json} (partner : Json → Json) (present : ∀ x ∈ xs, partner x ∈ ys)
      (related : ∀ x ∈ xs, Within R x (partner x)) : Within R (.array xs) (.array ys)
  | mapping {xs ys : List (String × Json)}
      (names : ∀ name, Fields.contains name xs = true → Fields.contains name ys = true)
      (related : ∀ name x y, Fields.find? name xs = some x → Fields.find? name ys = some y →
        Within R x y) : Within R (.object xs) (.object ys)

/-- Containment proper: primitives are contained in equal primitives. -/
abbrev Contained : Pattern → Pattern → Prop := Within fun p q => (p == q) = true

/-- Containment that compares numbers by value. -/
abbrev ContainedByValue : Pattern → Pattern → Prop := Within fun p q => samePrimitive p q = true

namespace Within

variable {R S T : Pattern → Pattern → Prop}

/-- A sequence lies within sequences that have something for each of its elements to lie within. -/
theorem array_iff {xs : List Json} {q : Pattern} : Within R (.array xs) q ↔
    ∃ ys, q = .array ys ∧ ∀ x ∈ xs, ∃ y ∈ ys, Within R x y := by
  constructor
  · intro within
    cases within with
    | primitive left => exact nomatch left
    | sequence partner present related =>
        exact ⟨_, rfl, fun x member => ⟨partner x, present x member, related x member⟩⟩
  · rintro ⟨ys, rfl, elements⟩
    choose! partner present related using elements
    exact .sequence partner present related

/-- A mapping lies within mappings that have its names with values for its own to lie within. -/
theorem object_iff {xs : List (String × Json)} {q : Pattern} : Within R (.object xs) q ↔
    ∃ ys, q = .object ys ∧ ∀ name x, Fields.find? name xs = some x →
      ∃ y, Fields.find? name ys = some y ∧ Within R x y := by
  constructor
  · intro within
    cases within with
    | primitive left => exact nomatch left
    | mapping names related =>
        refine ⟨_, rfl, ?_⟩
        intro name x found
        obtain ⟨y, found'⟩ := Option.isSome_iff_exists.mp
          (names name (Option.isSome_iff_exists.mpr ⟨x, found⟩))
        exact ⟨y, found', related name x y found found'⟩
  · rintro ⟨ys, rfl, values⟩
    refine .mapping ?_ ?_
    · intro name present
      obtain ⟨x, found⟩ := Option.isSome_iff_exists.mp present
      obtain ⟨y, found', -⟩ := values name x found
      exact Option.isSome_iff_exists.mpr ⟨y, found'⟩
    · intro name x y found found'
      obtain ⟨y', found'', within⟩ := values name x found
      rw [found'] at found''
      rwa [Option.some.inj found'']

theorem refl (self : ∀ p, isPrimitive p = true → R p p) (p : Pattern) : Within R p p := by
  induction p using inductionOn with
  | primitive p primitive => exact .primitive primitive primitive (self p primitive)
  | array items inductionHypothesis =>
      refine array_iff.mpr ⟨items, rfl, ?_⟩
      exact fun x member => ⟨x, member, inductionHypothesis x member⟩
  | object fields inductionHypothesis =>
      refine object_iff.mpr ⟨fields, rfl, ?_⟩
      exact fun name x found => ⟨x, found, inductionHypothesis _ (Fields.mem_of_find? found)⟩

/-- Containments in a row make a containment. -/
theorem trans (joins : ∀ p q r, R p q → S q r → T p r) {p q r : Pattern} (first : Within R p q)
    (second : Within S q r) : Within T p r := by
  induction p using inductionOn generalizing q r with
  | primitive p primitive =>
      cases first with
      | primitive left right related =>
          cases second with
          | primitive _ right' related' =>
              exact .primitive left right' (joins _ _ _ related related')
          | sequence => exact nomatch right
          | mapping => exact nomatch right
      | sequence => exact nomatch primitive
      | mapping => exact nomatch primitive
  | array xs inductionHypothesis =>
      obtain ⟨ys, rfl, elements⟩ := array_iff.mp first
      obtain ⟨zs, rfl, elements'⟩ := array_iff.mp second
      refine array_iff.mpr ⟨zs, rfl, ?_⟩
      intro x member
      obtain ⟨y, inYs, below⟩ := elements x member
      obtain ⟨z, inZs, below'⟩ := elements' y inYs
      exact ⟨z, inZs, inductionHypothesis x member below below'⟩
  | object xs inductionHypothesis =>
      obtain ⟨ys, rfl, values⟩ := object_iff.mp first
      obtain ⟨zs, rfl, values'⟩ := object_iff.mp second
      refine object_iff.mpr ⟨zs, rfl, ?_⟩
      intro name x found
      obtain ⟨y, found', below⟩ := values name x found
      obtain ⟨z, found'', below'⟩ := values' name y found'
      exact ⟨z, found'', inductionHypothesis _ (Fields.mem_of_find? found) below below'⟩

end Within

/-- A partial match is containment with numbers compared by value. -/
theorem within_of_partially {h m : Pattern} (held : matchesMessage true h m = some true) :
    ContainedByValue h m := by
  induction h using inductionOn generalizing m with
  | primitive h primitive =>
      have primitive' := isPrimitive_of_rank_eq (rank_eq_of_matchesMessage held) primitive
      rw [matchesMessage_of_isPrimitive true primitive, Option.some.injEq] at held
      exact .primitive primitive primitive' held
  | array hs inductionHypothesis =>
      cases m with
      | array ms =>
          refine Within.array_iff.mpr ⟨ms, rfl, ?_⟩
          intro h member
          obtain ⟨m, present, below⟩ := exists_of_array_held held member
          exact ⟨m, present, inductionHypothesis h member below⟩
      | _ => exact nomatch held
  | object hs inductionHypothesis =>
      cases m with
      | object ms =>
          refine Within.object_iff.mpr ⟨ms, rfl, ?_⟩
          intro name h found
          have member := Fields.mem_of_find? found
          obtain ⟨m, found', below⟩ := object_held_iff.mp held _ member
          exact ⟨m, found', inductionHypothesis _ member below⟩
      | _ => exact nomatch held

/-- A partial match does not fail where the message contains the pattern. -/
theorem partially_ne_false_of_within {h m : Pattern} (formed : h.WellFormed)
    (within : ContainedByValue h m) : matchesMessage true h m ≠ some false := by
  induction h using inductionOn generalizing m with
  | primitive h primitive =>
      cases within with
      | primitive _ _ same =>
          rw [matchesMessage_of_isPrimitive true primitive, same]
          decide
      | sequence => exact nomatch primitive
      | mapping => exact nomatch primitive
  | array hs inductionHypothesis =>
      intro fails
      obtain ⟨ms, rfl, elements⟩ := Within.array_iff.mp within
      obtain ⟨h, own, nowhere⟩ := exists_of_array_not_held fails
      obtain ⟨m, member, below⟩ := elements h own
      exact inductionHypothesis h own (formed.element own) below (nowhere m member)
  | object hs inductionHypothesis =>
      intro fails
      obtain ⟨ms, rfl, values⟩ := Within.object_iff.mp within
      obtain ⟨⟨name, h⟩, own, nowhere⟩ := exists_of_object_not_held fails
      obtain ⟨m, found, below⟩ := values name h (formed.sorted.find?_of_mem own)
      exact inductionHypothesis _ own (formed.value own) below (nowhere m found)

/-- What is matched partially could be sorted. -/
theorem sortable_of_partially {h m : Pattern} (held : matchesMessage true h m = some true) :
    Sortable h := by
  induction h using inductionOn generalizing m with
  | primitive h primitive => exact .primitive primitive
  | array hs inductionHypothesis =>
      cases m with
      | array ms =>
          obtain ⟨others, sorts⟩ := exists_sorted_of_array_held held
          refine .sequence sorts ?_
          intro h member
          obtain ⟨m, -, below⟩ := exists_of_array_held held member
          exact inductionHypothesis h member below
      | _ => exact nomatch held
  | object hs inductionHypothesis =>
      cases m with
      | object ms =>
          refine .mapping ?_
          intro f member
          obtain ⟨m, -, below⟩ := object_held_iff.mp held f member
          exact inductionHypothesis f member below
      | _ => exact nomatch held

/-- A pattern that the message contains is matched, unless sorting one of its sequences crashes. -/
theorem partially_of_within {h m : Pattern} (formed : h.WellFormed)
    (within : ContainedByValue h m) : matchesMessage true h m ≠ some false ∧
      (matchesMessage true h m = some true ↔ Sortable h) := by
  have holds := partially_ne_false_of_within formed within
  refine ⟨holds, sortable_of_partially, ?_⟩
  intro sortable
  obtain ⟨passes, ends⟩ := exists_matchPartially sortable m
  cases passes with
  | false => exact absurd ends holds
  | true => exact ends

/-! ### Equal primitives -/

theorem sameValue_congr {x y : Double} (equal : x.sameValue y = true) (z : Double) :
    x.sameValue z = y.sameValue z := by
  have back : y.sameValue x = true := (sameValue_comm (.double y) (.double x)).trans equal
  rw [Bool.eq_iff_iff]
  exact ⟨Double.sameValue_trans back, Double.sameValue_trans equal⟩

/-- Equal patterns agree with the same primitives. -/
theorem samePrimitive_congr {p q : Pattern} (equal : (p == q) = true) (r : Pattern) :
    samePrimitive p r = samePrimitive q r := by
  cases p with
  | number l =>
      cases q with
      | number m =>
          cases r with
          | number n =>
              cases l with
              | integer i _ =>
                  cases m with
                  | integer j _ =>
                      have same : i = j := beq_iff_eq.mp equal
                      subst same
                      rfl
                  | double y => exact nomatch equal
              | double x =>
                  cases m with
                  | integer j _ => exact nomatch equal
                  | double y => exact sameValue_congr equal n.toDouble
          | _ => rfl
      | _ => exact nomatch equal
  | bool x =>
      cases q with
      | bool y => rw [show x = y from beq_iff_eq.mp equal]
      | _ => exact nomatch equal
  | string s =>
      cases q with
      | string t => rw [show s = t from beq_iff_eq.mp equal]
      | _ => exact nomatch equal
  | _ => cases q <;> first | rfl | exact nomatch equal

theorem beq_self_of_isPrimitive {p : Pattern} (primitive : isPrimitive p = true) :
    (p == p) = true := by
  change Json.beq p p = true
  cases p with
  | number x => cases x <;> simp [Json.beq, Json.sameNumber, Double.sameValue]
  | array items => exact absurd primitive Bool.false_ne_true
  | object fields => exact absurd primitive Bool.false_ne_true
  | _ => simp [Json.beq]

theorem contained_self (p : Pattern) : Contained p p :=
  Within.refl (fun _ => beq_self_of_isPrimitive) p

/-! ### Growing messages -/

/-- A message says more: it gets an attribute or an element, its elements are reordered, or one of
these happens below an attribute or in an element. -/
inductive Grows : Pattern → Pattern → Prop where
  | newField {fields : List (String × Json)} {name : String}
      (free : Fields.find? name fields = none) (value : Json) :
      Grows (.object fields) (.object (Fields.insert name value fields))
  | newItem (front back : List Json) (value : Json) :
      Grows (.array (front ++ back)) (.array (front ++ value :: back))
  | reordered {items others : List Json} (permuted : items ~ others) :
      Grows (.array items) (.array others)
  | inField {fields : List (String × Json)} {name : String} {p q : Json}
      (found : Fields.find? name fields = some p) (below : Grows p q) :
      Grows (.object fields) (.object (Fields.insert name q fields))
  | inItem (front back : List Json) {p q : Json} (below : Grows p q) :
      Grows (.array (front ++ p :: back)) (.array (front ++ q :: back))

/-- A message contains what it was before it grew. -/
theorem contained_of_grows {m m' : Pattern} (grows : Grows m m') : Contained m m' := by
  induction grows with
  | @newField fields name free value =>
      refine Within.object_iff.mpr ⟨_, rfl, ?_⟩
      intro other x found
      have elsewhere : other ≠ name := by
        rintro rfl
        rw [free] at found
        cases found
      rw [Fields.find?_insert, if_neg elsewhere]
      exact ⟨x, found, contained_self x⟩
  | newItem front back value =>
      refine Within.array_iff.mpr ⟨_, rfl, ?_⟩
      intro x member
      refine ⟨x, ?_, contained_self x⟩
      rcases List.mem_append.mp member with inFront | inBack
      · exact List.mem_append_left _ inFront
      · exact List.mem_append_right _ (List.mem_cons_of_mem _ inBack)
  | reordered permuted =>
      refine Within.array_iff.mpr ⟨_, rfl, ?_⟩
      exact fun x member => ⟨x, permuted.subset member, contained_self x⟩
  | @inField fields name p q found below inductionHypothesis =>
      refine Within.object_iff.mpr ⟨_, rfl, ?_⟩
      intro other x found'
      rw [Fields.find?_insert]
      split
      · rename_i same
        rw [same, found] at found'
        cases found'
        exact ⟨q, rfl, inductionHypothesis⟩
      · exact ⟨x, found', contained_self x⟩
  | @inItem front back p q below inductionHypothesis =>
      refine Within.array_iff.mpr ⟨_, rfl, ?_⟩
      intro x member
      rcases List.mem_append.mp member with inFront | inBack
      · exact ⟨x, List.mem_append_left _ inFront, contained_self x⟩
      · rcases List.mem_cons.mp inBack with rfl | later
        · exact ⟨q, by simp, inductionHypothesis⟩
        · exact ⟨x, List.mem_append_right _ (List.mem_cons_of_mem _ later), contained_self x⟩

/-! ### Partial matches of less and more -/

/-- What contains a pattern by value contains by value all that the pattern contains. -/
theorem containedByValue_of_less {p q r : Pattern} (less : Contained p q)
    (within : ContainedByValue q r) : ContainedByValue p r := by
  refine less.trans ?_ within
  intro p q r equal same
  rwa [samePrimitive_congr equal]

/-- What a pattern contains by value is contained by value in all that contains the pattern. -/
theorem containedByValue_of_more {p q r : Pattern} (within : ContainedByValue p q)
    (more : Contained q r) : ContainedByValue p r := by
  refine within.trans ?_ more
  intro p q r same equal
  rw [samePrimitive_comm] at same ⊢
  rwa [← samePrimitive_congr equal]

theorem containedByValue_of_grown {h m m' : Pattern} (within : ContainedByValue h m)
    (grown : Relation.ReflTransGen Grows m m') : ContainedByValue h m' := by
  induction grown with
  | refl => exact within
  | tail _ grows inductionHypothesis =>
      exact containedByValue_of_more inductionHypothesis (contained_of_grows grows)

/-- A partial match is monotone: it does not fail when the handler's pattern is replaced by one that
it contains and the message by one that contains it, and holds unless sorting a sequence of the new
pattern crashes. It stays when only the message grows, step by step. A pattern matches every message
that contains it, under the same exception. -/
theorem partial_match_monotone {h' : Pattern} (formed : h'.WellFormed) :
    (∀ h m m' : Pattern, Contained h' h → matchesMessage true h m = some true → Contained m m' →
      matchesMessage true h' m' ≠ some false ∧
        (matchesMessage true h' m' = some true ↔ Sortable h')) ∧
    (∀ m m' : Pattern, matchesMessage true h' m = some true → Contained m m' →
      matchesMessage true h' m' = some true) ∧
    (∀ m m' : Pattern, matchesMessage true h' m = some true → Relation.ReflTransGen Grows m m' →
      matchesMessage true h' m' = some true) ∧
    ∀ m : Pattern, Contained h' m → matchesMessage true h' m ≠ some false ∧
      (matchesMessage true h' m = some true ↔ Sortable h') := by
  refine ⟨?_, ?_, ?_, ?_⟩
  · intro h m m' less held more
    exact partially_of_within formed
      (containedByValue_of_more (containedByValue_of_less less (within_of_partially held)) more)
  · intro m m' held more
    exact (partially_of_within formed
      (containedByValue_of_more (within_of_partially held) more)).2.mpr (sortable_of_partially held)
  · intro m m' held grown
    exact (partially_of_within formed
      (containedByValue_of_grown (within_of_partially held) grown)).2.mpr
        (sortable_of_partially held)
  · intro m contained
    exact partially_of_within formed
      (containedByValue_of_less contained (Within.refl (fun _ => samePrimitive_self) m))

/-- A handler that asks for one element less still matches after the message got another element
and another attribute. -/
theorem smaller_handler_matches_larger_message :
    matchesMessage true (.object [("k", .array [.string "a"])])
      (.object [("k", .array [.null, .number (.double (Double.ofInt 1)), .string "a"]),
        ("l", .null)]) = some true := by
  have formed : Json.WellFormed (.object [("k", .array [.string "a"])]) := by
    simp [Json.WellFormed, Json.WellFormedFields, Json.WellFormedItems, Fields.Sorted,
      Fields.names]
  have under : ∀ {xs ys : List Json} {fields : List (String × Json)},
      Fields.find? "k" fields = some (.array ys) → (∀ x ∈ xs, x ∈ ys) →
        Contained (.object [("k", .array xs)]) (.object fields) := by
    intro xs ys fields found subset
    refine Within.object_iff.mpr ⟨fields, rfl, ?_⟩
    intro name x found'
    rw [Fields.find?_cons] at found'
    split at found'
    · rename_i same
      cases found'
      rw [same]
      refine ⟨_, found, Within.array_iff.mpr ⟨ys, rfl, ?_⟩⟩
      exact fun x member => ⟨x, subset x member, contained_self x⟩
    · cases found'
  have sortable : Sortable (.object [("k", .array [.string "a"])]) := by
    refine .mapping (List.forall_mem_singleton.mpr (.of_elements ?_ (Or.inl (by simp))))
    exact List.forall_mem_singleton.mpr (.primitive rfl)
  exact ((partial_match_monotone formed).1 (.object [("k", .array [.string "a", .ofInt 1])])
    (.object [("k", .array [.number (.double (Double.ofInt 1)), .string "a"])]) _
    (under rfl (by simp)) (by decide +kernel) (under rfl (by simp))).2.mpr sortable

/-- The numbers of a sequence that cannot be sorted are also elements of a sequence of three, which
matches itself; yet matching the long sequence against it crashes. -/
theorem squeezed_numbers_lose_match :
    ¬ ∀ h' h m m' : Pattern, h'.WellFormed → Contained h' h → matchesMessage true h m = some true →
      Contained m m' → matchesMessage true h' m' = some true := by
  intro monotone
  have contained : Contained (.array squeezedNumbers) (.array (squeezedNumbers.take 3)) := by
    refine Within.array_iff.mpr ⟨_, rfl, ?_⟩
    intro x member
    refine ⟨x, ?_, contained_self x⟩
    rw [squeezedNumbers, List.mem_flatten] at member
    obtain ⟨three, among, inThree⟩ := member
    rwa [List.eq_of_mem_replicate among] at inThree
  have formed : (Json.array squeezedNumbers).WellFormed := by
    simp [squeezedNumbers, Json.WellFormed, Json.WellFormedItems, List.replicate]
  have matched := monotone _ _ _ _ formed contained (by decide +kernel)
    (contained_self (.array (squeezedNumbers.take 3)))
  simp only [matchPartially_array, sorted_squeezedNumbers] at matched
  cases matched

end EventDispatch.Pattern
