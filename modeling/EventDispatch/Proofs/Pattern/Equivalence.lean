import EventDispatch.Proofs.Json.Fields
import EventDispatch.Proofs.Pattern.Rewording
/-!
The full match as an equivalence.

Purpose: a full match holds of a pattern and itself, unless sorting crashes, and does not notice
which side is the message. It passes on through every pattern without doubles; a double in the
middle may tie two integers that both round to it.

Main exports: `Pattern.forall₂_iff_find?`, `Pattern.Integral`, `Pattern.Meets.trans`,
`Pattern.full_match_equivalence`.
-/

namespace EventDispatch

/-! ### Mappings by names -/

namespace Fields.Sorted

variable {α : Type} {first second : Fields α}

theorem nodup_names (sorted : Sorted first) : first.names.Nodup :=
  sorted.imp fun below => String.ne_of_lt below

theorem names_eq_of_perm (sorted : Sorted first) (sortedSecond : Sorted second)
    (permuted : first.names.Perm second.names) : first.names = second.names := by
  apply permuted.eq_of_pairwise _ sorted sortedSecond
  intro name other _ _ below above
  exact absurd (String.lt_trans below above) (String.lt_irrefl _)

/-- Ordered maps with the same set of names list them alike. -/
theorem names_ext (sorted : Sorted first) (sortedSecond : Sorted second)
    (same : ∀ name, name ∈ first.names ↔ name ∈ second.names) : first.names = second.names :=
  sorted.names_eq_of_perm sortedSecond
    ((List.perm_ext_iff_of_nodup sorted.nodup_names sortedSecond.nodup_names).mpr same)

end Fields.Sorted

namespace Pattern

/-- Ordered fields are related one by one when the names are the same and what is found under a name
is related. -/
theorem forall₂_iff_find? {R : Json → Json → Prop} {fields others : List (String × Json)}
    (sorted : Fields.Sorted fields) (sorted' : Fields.Sorted others) :
    List.Forall₂ (fun f g => f.1 = g.1 ∧ R f.2 g.2) fields others ↔
      Fields.names fields = Fields.names others ∧
        ∀ name p q, Fields.find? name fields = some p → Fields.find? name others = some q →
          R p q := by
  constructor
  · intro related
    refine ⟨(forall₂_fields.mp related).1, ?_⟩
    intro name p q found found'
    obtain ⟨⟨_, q'⟩, member, rfl, values⟩ := exists_of_forall₂ related (Fields.mem_of_find? found)
    rw [sorted'.find?_of_mem member] at found'
    rwa [← Option.some.inj found']
  · rintro ⟨names, values⟩
    refine forall₂_fields.mpr ⟨names, ?_⟩
    intro i here there
    have name : (fields.map Prod.fst)[i]? = (others.map Prod.fst)[i]? := congrArg (·[i]?) names
    have same : fields[i].1 = others[i].1 := by simpa [here, there] using name
    apply values fields[i].1
    · exact sorted.find?_of_mem (List.getElem_mem here)
    · rw [same]
      exact sorted'.find?_of_mem (List.getElem_mem there)

/-! ### Matches in a row -/

/-- Every number, at any depth, is an integer. -/
inductive Integral : Pattern → Prop where
  | primitive {p : Pattern} (primitive : isPrimitive p = true)
      (integer : ∀ x, p ≠ .number (.double x)) : Integral p
  | sequence {items : List Json} (elements : ∀ p ∈ items, Integral p) : Integral (.array items)
  | mapping {fields : List (String × Json)} (values : ∀ f ∈ fields, Integral f.2) :
      Integral (.object fields)

/-- An integer joins the numbers that have its value, doubles or not. -/
theorem sameValue_join {i : Int} {fits : Number.Fits i} {l n : Number}
    (first : l.sameValue (.integer i fits) = true)
    (second : Number.sameValue (.integer i fits) n = true) : l.sameValue n = true := by
  cases l with
  | integer h _ =>
      have same : h = i := beq_iff_eq.mp first
      subst same
      exact second
  | double x =>
      cases n with
      | integer j _ =>
          have same : i = j := beq_iff_eq.mp second
          subst same
          exact first
      | double z => exact Double.sameValue_trans first second

/-- Matches in a row make a match, if the numbers of the pattern in the middle are integers. -/
theorem Meets.trans {p q r : Pattern} (integral : Integral q) (first : Meets p q)
    (second : Meets q r) : Meets p r := by
  induction integral generalizing p r with
  | primitive primitive integer =>
      have primitive' := isPrimitive_of_rank_eq (rank_eq_of_meets first).symm primitive
      rw [meets_of_isPrimitive primitive'] at first ⊢
      rw [meets_of_isPrimitive primitive] at second
      refine samePrimitive_join ?_ first second
      intro l m n _ middle first second
      cases m with
      | integer i fits => exact sameValue_join first second
      | double y => exact absurd middle (integer y)
  | sequence _ inductionHypothesis =>
      obtain ⟨ps, rfl⟩ := exists_array_of_meets first.symm
      obtain ⟨rs, rfl⟩ := exists_array_of_meets second
      obtain ⟨ps', qs', sortsP, sortsQ, matched⟩ := meets_array.mp first
      obtain ⟨qs'', rs', sortsQ', sortsR, matched'⟩ := meets_array.mp second
      -- The sequence in the middle is sorted alike in both matches, so positions can be joined.
      cases sortsQ.symm.trans sortsQ'
      refine meets_array.mpr ⟨ps', rs', sortsP, sortsR, forall₂_join ?_ matched matched'⟩
      intro q member _ _
      exact inductionHypothesis q ((sorted_perm sortsQ).mem_iff.mp member)
  | mapping _ inductionHypothesis =>
      obtain ⟨ps, rfl⟩ := exists_object_of_meets first.symm
      obtain ⟨rs, rfl⟩ := exists_object_of_meets second
      rw [meets_object] at first second ⊢
      refine forall₂_join ?_ first second
      intro q member _ _ pair pair'
      exact ⟨pair.1.trans pair'.1, inductionHypothesis q member pair.2 pair'.2⟩

/-- Integers alone are sorted without a crash. -/
theorem Integral.sortable {p : Pattern} (integral : Integral p) : Sortable p := by
  induction integral with
  | primitive primitive => exact .primitive primitive
  | @sequence items elements inductionHypothesis =>
      have free : Unsqueezed items := by
        intro a _ b inB c _ squeezed
        cases squeezed with
        | between =>
            cases elements _ inB with
            | primitive _ integer => exact integer _ rfl
      obtain ⟨others, sorts, -⟩ := exists_sorted free
      exact .sequence sorts inductionHypothesis
  | mapping _ inductionHypothesis => exact .mapping inductionHypothesis

/-- A sequence is sorted without a crash if it is short, or has no squeezed double. -/
theorem Sortable.of_elements {items : List Json} (elements : ∀ p ∈ items, Sortable p)
    (orderly : items.length ≤ 20 ∨ Unsqueezed items) : Sortable (.array items) := by
  rcases orderly with few | free
  · obtain ⟨others, sorts⟩ := exists_sorted_of_few few
    exact .sequence sorts elements
  · obtain ⟨others, sorts, -⟩ := exists_sorted free
    exact .sequence sorts elements

/-- Whether a match goes one way or the other, it ends with one answer where it ends. -/
theorem matchFully_comm {p q : Pattern} (sortable : Sortable p) (sortable' : Sortable q) :
    ∃ passes, matchesMessage false p q = some passes ∧ matchesMessage false q p = some passes := by
  obtain ⟨passes, there⟩ := exists_matchFully sortable sortable'
  obtain ⟨passes', back⟩ := exists_matchFully sortable' sortable
  have turns : passes = true ↔ passes' = true := by
    constructor
    · rintro rfl
      exact Option.some.inj (back.symm.trans (Meets.symm there))
    · rintro rfl
      exact Option.some.inj (there.symm.trans (Meets.symm back))
  exact ⟨passes, there, back.trans (congrArg some (Bool.eq_iff_iff.mpr turns).symm)⟩

/-- The full match is an equivalence on patterns whose numbers are integers: these are matched
without a crash, and of three patterns in a row only the middle one has to be of this kind. On all
patterns a match goes both ways. A pattern does not fail to match itself, and it matches itself
exactly if its sequences can be sorted, as those can that have at most twenty elements or no double
squeezed between two integers; of such patterns the answer does not depend on which side is the
message. Mappings are compared by the names of the message. -/
theorem full_match_equivalence (p q r : Pattern) :
    (matchesMessage false p p ≠ some false ∧
      (matchesMessage false p p = some true ↔ Sortable p)) ∧
    (matchesMessage false p q = some true ↔ matchesMessage false q p = some true) ∧
    (Sortable p → Sortable q → ∃ passes,
      matchesMessage false p q = some passes ∧ matchesMessage false q p = some passes) ∧
    (Integral q → matchesMessage false p q = some true → matchesMessage false q r = some true →
      matchesMessage false p r = some true) ∧
    (Integral p → Sortable p) ∧
    (∀ items : List Json, (∀ p ∈ items, Sortable p) →
      items.length ≤ 20 ∨ Unsqueezed items → Sortable (.array items)) ∧
    ∀ hs ms : List (String × Json), Fields.Sorted hs → Fields.Sorted ms →
      matchesMessage false (.object hs) (.object ms) =
        if hs.length = ms.length then
          ms.allM fun m =>
            (Fields.find? m.1 hs).elim (some false) fun h => matchesMessage false h m.2
        else some false := by
  refine ⟨⟨fully_self_ne_false p, fun meets => (sortable_of_meets p meets).1, meets_self⟩,
    ⟨Meets.symm, Meets.symm⟩, matchFully_comm, fun integral => Meets.trans integral,
    Integral.sortable, fun items => Sortable.of_elements,
    fun hs ms => matchFully_object_of_sorted⟩

/-- The sequence in the middle joins the same elements in two other orders, of which the last one
writes the number as a double. -/
theorem reordered_twice_matches :
    Integral (.object [("k", .array [.string "a", .null, .ofInt 1])]) ∧
      Meets (.object [("k", .array [.ofInt 1, .string "a", .null])])
        (.object [("k", .array [.null, .number (.double (Double.ofInt 1)), .string "a"])]) := by
  have integral : Integral (.object [("k", .array [.string "a", .null, .ofInt 1])]) := by
    refine .mapping (List.forall_mem_singleton.mpr (.sequence ?_))
    have elements : ∀ p ∈ [Json.string "a", .null, .ofInt 1],
        isPrimitive p = true ∧ ∀ x, p ≠ .number (.double x) := by
      simp [isPrimitive, Json.ofInt, Number.ofInt, Number.Fits]
    exact fun p member => .primitive (elements p member).1 (elements p member).2
  refine ⟨integral, ?_⟩
  refine (full_match_equivalence _ _ _).2.2.2.1 integral ?_ ?_
  · decide +kernel
  · decide +kernel

/-- A sequence that cannot be sorted does not match itself: the match crashes. -/
theorem squeezed_numbers_unmatched :
    ¬ ∀ p : Pattern, matchesMessage false p p = some true := by
  intro reflexive
  have crashes : matchesMessage false (.array squeezedNumbers) (.array squeezedNumbers) = none := by
    rw [matchFully_array, if_pos rfl, sorted_squeezedNumbers]
    rfl
  rw [reflexive] at crashes
  cases crashes

/-- Through a double, two different integers that round to it would have to match. -/
example : ¬ ∀ p q r : Pattern, Meets p q → Meets q r → Meets p r := by
  intro passes
  have ends := passes (.ofInt (2 ^ 53 + 1)) (.number (.double (Double.ofInt (2 ^ 53))))
    (.ofInt (2 ^ 53)) (by decide +kernel) (by decide +kernel)
  exact absurd ends (by decide +kernel)

end Pattern
end EventDispatch
