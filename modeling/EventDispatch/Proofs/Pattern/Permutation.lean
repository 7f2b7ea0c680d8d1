import EventDispatch.Proofs.Pattern.Equivalence
/-!
The full match as equality up to the order of sequences.

Purpose: where all numbers are integers and no sequence stands below another one, the order of
patterns tells all elements of a sequence apart. Sorting then takes sequences with the same elements
to the same list, and a message matches exactly if it is the handler's pattern with the elements of
its sequences permuted.

Main exports: `Pattern.Permuted`, `Pattern.Flat`, `Pattern.compatible_rigid`,
`Pattern.full_match_iff_permuted`.
-/

namespace EventDispatch.Pattern

open scoped List

/-- The second pattern is the first one with the elements of its sequences permuted: at every level
mappings have the same names, and sequences the same elements, each equally often. -/
inductive Permuted : Pattern → Pattern → Prop where
  | primitive {p : Json} (primitive : isPrimitive p = true) : Permuted p p
  | sequence {items others : List Json} (permuted : items ~ others) :
      Permuted (.array items) (.array others)
  | mapping {fields others : List (String × Json)}
      (names : ∀ name, name ∈ Fields.names fields ↔ name ∈ Fields.names others)
      (values : ∀ name p q, Fields.find? name fields = some p →
        Fields.find? name others = some q → Permuted p q) :
      Permuted (.object fields) (.object others)

/-- Every number is an integer, and no sequence stands below another one; in particular a sequence
may hold primitives only. -/
inductive Flat : Pattern → Prop where
  | rigid {p : Pattern} (rigid : Rigid p) : Flat p
  | sequence {items : List Json} (elements : ∀ p ∈ items, Rigid p) : Flat (.array items)
  | mapping {fields : List (String × Json)} (values : ∀ f ∈ fields, Flat f.2) :
      Flat (.object fields)

/-! ### Rigid patterns in order -/

/-- Rigid patterns that tie in the order are equal. -/
theorem Rigid.eq_of_tie {a b : Pattern} (rigid : Rigid a) (rigid' : Rigid b)
    (tie : order a b = .eq) : a = b := by
  have kinds : rank a = rank b := by
    by_contra differ
    rw [order_of_rank_ne differ] at tie
    exact differ (Nat.compare_eq_eq.mp tie)
  cases rigid with
  | null => cases rigid' <;> first | rfl | exact nomatch kinds
  | bool x =>
      cases rigid' with
      | bool y => exact congrArg Json.bool (Std.LawfulEqOrd.eq_of_compare tie)
      | _ => exact nomatch kinds
  | integer i _ =>
      cases rigid' with
      | integer j _ =>
          have same : i = j := Std.LawfulEqOrd.eq_of_compare tie
          subst same
          rfl
      | _ => exact nomatch kinds
  | string s =>
      cases rigid' with
      | string t => exact congrArg Json.string (Std.LawfulEqOrd.eq_of_compare tie)
      | _ => exact nomatch kinds
  | mapping values =>
      cases rigid' with
      | mapping values' => exact Rigid.eq_of_order_eq (.mapping values) (.mapping values') tie
      | _ => exact nomatch kinds

/-- Among rigid patterns matching and order go together, however great the integers are. -/
theorem compatible_rigid : Compatible Rigid where
  joins := by
    intro a b c rigid rigid' _ first second
    rwa [rigid.eq_of_meets rigid' first]
  between := by
    intro a b c rigid rigid' rigid'' below above ends
    -- The outer two are equal, so the one in the middle ties with both.
    rw [← rigid.eq_of_meets rigid'' ends] at above
    rw [rigid.eq_of_tie rigid' (order_tie below above)]
    exact meets_self rigid'.sortable

/-- Sequences of rigid patterns match exactly if one is a permutation of the other. -/
theorem meets_array_iff_perm {hs ms : List Json} (rigid : ∀ p ∈ hs, Rigid p)
    (rigid' : ∀ p ∈ ms, Rigid p) : Meets (.array hs) (.array ms) ↔ hs ~ ms := by
  rw [(meets_array_iff_pairing Rigid).mpr compatible_rigid.uncrossed hs ms rigid rigid']
  constructor
  · intro pairing
    have equal : Pairing (· = ·) hs ms :=
      pairing.imp fun h inHs m inMs meets => (rigid h inHs).eq_of_meets (rigid' m inMs) meets
    obtain ⟨others, related, permuted⟩ := pairing_iff_forall₂.mp equal
    rw [List.forall₂_eq_eq_eq] at related
    rwa [related]
  · intro permuted
    refine (exists_positions permuted).imp ?_
    rintro h inHs _ _ rfl
    exact meets_self (rigid h inHs).sortable

/-! ### Flat patterns -/

namespace Flat

/-- Sequences of primitives are flat when their numbers are integers. -/
theorem of_primitives {items : List Json} (primitive : ∀ p ∈ items, isPrimitive p = true)
    (integer : ∀ p ∈ items, ∀ x, p ≠ .number (.double x)) : Flat (.array items) := by
  refine .sequence ?_
  intro p member
  have own := primitive p member
  cases p with
  | null => exact .null
  | bool b => exact .bool b
  | number n =>
      cases n with
      | integer i fits => exact .integer i fits
      | double x => exact absurd rfl (integer _ member x)
  | string s => exact .string s
  | array items => exact nomatch own
  | object fields => exact nomatch own

theorem of_isPrimitive {p : Pattern} (flat : Flat p) (primitive : isPrimitive p = true) :
    Rigid p := by
  cases flat with
  | rigid rigid => exact rigid
  | sequence => exact nomatch primitive
  | mapping => exact nomatch primitive

theorem of_array {items : List Json} (flat : Flat (.array items)) : ∀ p ∈ items, Rigid p := by
  cases flat with
  | rigid rigid => exact nomatch rigid
  | sequence elements => exact elements

theorem of_object {fields : List (String × Json)} (flat : Flat (.object fields)) :
    ∀ f ∈ fields, Flat f.2 := by
  cases flat with
  | rigid rigid =>
      cases rigid with
      | mapping values => exact fun f member => .rigid (values f member)
  | mapping values => exact values

end Flat

theorem permuted_of_meets {h m : Pattern} (formed : h.WellFormed) (formed' : m.WellFormed)
    (flat : Flat h) (flat' : Flat m) (meets : Meets h m) : Permuted h m := by
  induction h using inductionOn generalizing m with
  | primitive h primitive =>
      have primitive' := isPrimitive_of_rank_eq (rank_eq_of_meets meets) primitive
      rw [← (flat.of_isPrimitive primitive).eq_of_meets (flat'.of_isPrimitive primitive') meets]
      exact .primitive primitive
  | array hs =>
      obtain ⟨ms, rfl⟩ := exists_array_of_meets meets
      exact .sequence ((meets_array_iff_perm flat.of_array flat'.of_array).mp meets)
  | object hs inductionHypothesis =>
      obtain ⟨ms, rfl⟩ := exists_object_of_meets meets
      obtain ⟨names, values⟩ :=
        (forall₂_iff_find? formed.sorted formed'.sorted).mp (meets_object.mp meets)
      refine .mapping (fun name => by rw [names]) ?_
      intro name p q found found'
      have member := Fields.mem_of_find? found
      have member' := Fields.mem_of_find? found'
      exact inductionHypothesis _ member (formed.value member) (formed'.value member')
        (flat.of_object _ member) (flat'.of_object _ member') (values name p q found found')

theorem Permuted.meets {h m : Pattern} (permuted : Permuted h m) (formed : h.WellFormed)
    (formed' : m.WellFormed) (flat : Flat h) (flat' : Flat m) : Meets h m := by
  induction permuted with
  | primitive primitive => exact meets_self (.primitive primitive)
  | sequence permuted => exact (meets_array_iff_perm flat.of_array flat'.of_array).mpr permuted
  | mapping names _ inductionHypothesis =>
      apply meets_object.mpr
      refine (forall₂_iff_find? formed.sorted formed'.sorted).mpr
        ⟨formed.sorted.names_ext formed'.sorted names, ?_⟩
      intro name p q found found'
      have member := Fields.mem_of_find? found
      have member' := Fields.mem_of_find? found'
      exact inductionHypothesis name p q found found' (formed.value member)
        (formed'.value member') (flat.of_object _ member) (flat'.of_object _ member')

/-- Flat patterns are sorted without a crash. -/
theorem Flat.sortable {p : Pattern} (flat : Flat p) : Sortable p := by
  induction flat with
  | rigid rigid => exact rigid.sortable
  | sequence elements =>
      refine .of_elements (fun p member => (elements p member).sortable) (Or.inr ?_)
      intro a _ b inB c _ squeezed
      cases squeezed with
      | between => exact nomatch elements _ inB
  | mapping _ inductionHypothesis => exact .mapping inductionHypothesis

/-- Of flat patterns a message matches exactly if it is the handler's pattern with the elements of
its sequences permuted, and it fails to match if it is not. -/
theorem full_match_iff_permuted {h m : Pattern} (formed : h.WellFormed) (formed' : m.WellFormed)
    (flat : Flat h) (flat' : Flat m) :
    (matchesMessage false h m = some true ↔ Permuted h m) ∧
      (matchesMessage false h m = some false ↔ ¬ Permuted h m) := by
  have matched : matchesMessage false h m = some true ↔ Permuted h m :=
    ⟨permuted_of_meets formed formed' flat flat',
      fun permuted => permuted.meets formed formed' flat flat'⟩
  refine ⟨matched, ?_⟩
  rw [← matched]
  obtain ⟨passes, ends⟩ := exists_matchFully flat.sortable flat'.sortable
  rw [ends]
  cases passes <;> simp

/-- Integers that no double tells apart are still sorted, so their sequence may be turned round. -/
theorem turned_list_matches :
    Meets (.object [("k", .array [.number (.integer (2 ^ 53 + 1) (by decide)), .null,
        .number (.integer (2 ^ 53) (by decide))])])
      (.object [("k", .array [.number (.integer (2 ^ 53) (by decide)), .null,
        .number (.integer (2 ^ 53 + 1) (by decide))])]) := by
  have formed : ∀ x y : Number,
      Json.WellFormed (.object [("k", .array [.number x, .null, .number y])]) := by
    simp [Json.WellFormed, Json.WellFormedFields, Json.WellFormedItems, Fields.Sorted,
      Fields.names]
  have flat : ∀ {i j : Int} (fits : Number.Fits i) (fits' : Number.Fits j),
      Flat (.object [("k", .array [.number (.integer i fits), .null,
        .number (.integer j fits')])]) := by
    intro i j fits fits'
    refine .mapping (List.forall_mem_singleton.mpr (.of_primitives ?_ ?_))
    · simp [isPrimitive]
    · simp
  apply (full_match_iff_permuted (formed _ _) (formed _ _) (flat _ _) (flat _ _)).1.mpr
  refine .mapping (fun _ => .rfl) ?_
  intro name p q found found'
  rw [Fields.find?_cons] at found found'
  split at found
  · rename_i same
    rw [if_pos same] at found'
    cases found
    cases found'
    exact .sequence (List.reverse_perm _).symm
  · cases found

end EventDispatch.Pattern
