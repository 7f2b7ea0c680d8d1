import EventDispatch.Proofs.Pattern.Matching
import EventDispatch.Proofs.Pattern.Order
import EventDispatch.Proofs.Pattern.Pairing
/-!
Full matches and pairings.

Purpose: a full match compares two sequences position by position once both are sorted, so it always
comes with a pairing of their elements. Conversely a pairing is a full match exactly where two pairs
of matching elements that cross in the order can be uncrossed. Patterns that are *alike* can be
paired at every depth; whether they are does not depend on how sequences are ordered.

Main exports: `Pattern.Meets.symm`, `Pattern.UpToOrder`, `Pattern.Alike`, `Pattern.Uncrossed`,
`Pattern.alike_of_meets`, `Pattern.meets_of_alike`, `Pattern.meets_array_iff_pairing`,
`Pattern.Compatible.uncrossed`.
-/

namespace EventDispatch.Pattern

open scoped List

/-! ### A full match goes both ways -/

theorem sameValue_comm (x y : Number) : x.sameValue y = y.sameValue x := by
  have doubles : ∀ x y : Double, x.sameValue y = y.sameValue x := by
    intro x y
    rw [Double.sameValue, Double.sameValue, Bool.beq_comm, Bool.and_comm]
  cases x with
  | integer i _ =>
      cases y with
      | integer j _ => exact Bool.beq_comm
      | double y => exact doubles _ _
  | double x => cases y <;> exact doubles _ _

theorem samePrimitive_comm (p q : Pattern) : samePrimitive p q = samePrimitive q p := by
  cases p with
  | number x =>
      cases q with
      | number y => exact sameValue_comm x y
      | _ => rfl
  | bool x =>
      cases q with
      | bool y => exact Bool.beq_comm
      | _ => rfl
  | string x =>
      cases q with
      | string y => exact Bool.beq_comm
      | _ => rfl
  | _ => cases q <;> rfl

/-- A full match does not notice which side is the message. -/
theorem Meets.symm {h m : Pattern} (meets : Meets h m) : Meets m h := by
  induction h using inductionOn generalizing m with
  | primitive h primitive =>
      have primitive' := isPrimitive_of_rank_eq (rank_eq_of_meets meets) primitive
      rw [meets_of_isPrimitive primitive] at meets
      rwa [meets_of_isPrimitive primitive', samePrimitive_comm]
  | array hs inductionHypothesis =>
      obtain ⟨ms, rfl⟩ := exists_array_of_meets meets
      obtain ⟨hs', ms', sorts, sorts', related⟩ := meets_array.mp meets
      refine meets_array.mpr ⟨ms', hs', sorts', sorts, ?_⟩
      refine forall₂_of_mem related.flip ?_
      intro m _ h member matched
      exact inductionHypothesis h ((sorted_perm sorts).mem_iff.mp member) matched
  | object hs inductionHypothesis =>
      obtain ⟨ms, rfl⟩ := exists_object_of_meets meets
      refine meets_object.mpr (forall₂_of_mem (meets_object.mp meets).flip ?_)
      rintro g _ f member ⟨name, matched⟩
      exact ⟨name.symm, inductionHypothesis f member matched⟩

/-! ### Patterns that can be paired at every depth -/

/-- Patterns of one form up to the order of sequences at every depth, whose primitives are
related. -/
inductive UpToOrder (R : Pattern → Pattern → Prop) : Pattern → Pattern → Prop where
  | primitive {p q : Json} (left : isPrimitive p = true) (right : isPrimitive q = true)
      (related : R p q) : UpToOrder R p q
  | sequence {items others : List Json} (σ : Fin items.length ≃ Fin others.length)
      (related : ∀ i, UpToOrder R (items.get i) (others.get (σ i))) :
      UpToOrder R (.array items) (.array others)
  | mapping {fields others : List (String × Json)}
      (names : fields.map Prod.fst = others.map Prod.fst)
      (related : ∀ i (here : i < fields.length) (there : i < others.length),
        UpToOrder R (fields.get ⟨i, here⟩).2 (others.get ⟨i, there⟩).2) :
      UpToOrder R (.object fields) (.object others)

/-- Patterns that can be paired at every depth: primitives are the same, mappings have alike values
under the same names, and the elements of sequences are paired with elements alike. -/
abbrev Alike : Pattern → Pattern → Prop := UpToOrder fun p q => samePrimitive p q = true

/-- Fields are related one by one when the names are the same and the values are related. -/
theorem forall₂_fields {R : Json → Json → Prop} {fields others : List (String × Json)} :
    List.Forall₂ (fun f g => f.1 = g.1 ∧ R f.2 g.2) fields others ↔
      fields.map Prod.fst = others.map Prod.fst ∧
        ∀ i (here : i < fields.length) (there : i < others.length),
          R (fields.get ⟨i, here⟩).2 (others.get ⟨i, there⟩).2 := by
  rw [List.forall₂_iff_get]
  constructor
  · rintro ⟨length, related⟩
    refine ⟨?_, fun i here there => (related i here there).2⟩
    apply List.ext_getElem (by simpa using length)
    intro i here there
    simpa using (related i (by simpa using here) (by simpa using there)).1
  · rintro ⟨names, related⟩
    refine ⟨by simpa using congrArg List.length names, ?_⟩
    intro i here there
    have name : (fields.map Prod.fst)[i]? = (others.map Prod.fst)[i]? := by rw [names]
    exact ⟨by simpa [here, there] using name, related i here there⟩

namespace UpToOrder

variable {R S T : Pattern → Pattern → Prop}

theorem array_iff {items others : List Json} :
    UpToOrder R (.array items) (.array others) ↔ Pairing (UpToOrder R) items others := by
  constructor
  · intro related
    cases related with
    | primitive left => exact nomatch left
    | sequence σ related => exact ⟨σ, related⟩
  · rintro ⟨σ, related⟩
    exact .sequence σ related

theorem symm (turns : ∀ p q, R p q → S q p) {p q : Pattern} (related : UpToOrder R p q) :
    UpToOrder S q p := by
  induction related with
  | primitive left right related => exact .primitive right left (turns _ _ related)
  | sequence σ _ inductionHypothesis =>
      refine .sequence σ.symm ?_
      intro i
      have back := inductionHypothesis (σ.symm i)
      rwa [σ.apply_symm_apply] at back
  | mapping names _ inductionHypothesis =>
      exact .mapping names.symm fun i here there => inductionHypothesis i there here

theorem trans (joins : ∀ p q r, R p q → S q r → T p r) {p q r : Pattern}
    (first : UpToOrder R p q) (second : UpToOrder S q r) : UpToOrder T p r := by
  induction first generalizing r with
  | primitive left right related =>
      cases second with
      | primitive _ right' related' => exact .primitive left right' (joins _ _ _ related related')
      | sequence => exact nomatch right
      | mapping => exact nomatch right
  | sequence σ _ inductionHypothesis =>
      cases second with
      | primitive left' => exact nomatch left'
      | sequence τ related =>
          exact .sequence (σ.trans τ) fun i => inductionHypothesis i (related (σ i))
  | mapping names _ inductionHypothesis =>
      cases second with
      | primitive left' => exact nomatch left'
      | mapping names' related =>
          refine .mapping (names.trans names') ?_
          intro i here there
          have length := congrArg List.length names
          rw [List.length_map, List.length_map] at length
          have between := length ▸ here
          exact inductionHypothesis i here between (related i between there)

end UpToOrder

/-- A full match of sequences pairs their elements. -/
theorem pairing_of_meets {hs ms : List Json} (meets : Meets (.array hs) (.array ms)) :
    Pairing Meets hs ms := by
  obtain ⟨hs', ms', sorts, sorts', related⟩ := meets_array.mp meets
  exact (Pairing.of_forall₂ related).perm (sorted_perm sorts) (sorted_perm sorts')

/-- A full match pairs at every depth. -/
theorem alike_of_meets (h : Pattern) : ∀ {m : Pattern}, Meets h m → Alike h m := by
  induction h using inductionOn with
  | primitive h primitive =>
      intro m meets
      have same := (meets_of_isPrimitive primitive).mp meets
      refine .primitive primitive ?_ same
      cases h <;> cases m <;> simp_all [samePrimitive, isPrimitive]
  | array hs inductionHypothesis =>
      intro m meets
      obtain ⟨ms, rfl⟩ := exists_array_of_meets meets
      apply UpToOrder.array_iff.mpr
      exact (pairing_of_meets meets).imp fun p member _ _ => inductionHypothesis p member
  | object hs inductionHypothesis =>
      intro m meets
      obtain ⟨ms, rfl⟩ := exists_object_of_meets meets
      obtain ⟨names, values⟩ := forall₂_fields.mp (meets_object.mp meets)
      refine .mapping names ?_
      intro i here there
      exact inductionHypothesis _ (List.get_mem _ _) (values i here there)

/-! ### Uncrossing -/

/-- Whenever two pairs of matching patterns cross in the order, the patterns can be paired in order
as well. -/
def Uncrossed (T : Pattern → Prop) : Prop :=
  ∀ a a' b b', T a → T a' → T b → T b' → (order a a').isLE = true → (order b b').isLE = true →
    Meets a b' → Meets a' b → Meets a b ∧ Meets a' b'

namespace Uncrossed

variable {T : Pattern → Prop}

/-- A squeezed double matches both integers, which do not match each other. -/
theorem not_squeezed (uncrossed : Uncrossed T) {a b c : Pattern} (inA : T a) (inB : T b)
    (inC : T c) : ¬ Squeezed a b c := by
  intro squeezed
  obtain ⟨first, second, -⟩ := squeezed.orders
  have back : order c b = .eq := by rw [order_swap, second]; rfl
  obtain ⟨i, k, fits, fits', below, same, rfl, rfl, rfl⟩ : ∃ (i k : Int) (fits : Number.Fits i)
      (fits' : Number.Fits k), k < i ∧ Double.ofInt k = Double.ofInt i ∧
        a = .number (.integer i fits) ∧ b = .number (.double (Double.ofInt i)) ∧
          c = .number (.integer k fits') := by
    cases squeezed with
    | between fits fits' below same => exact ⟨_, _, fits, fits', below, same, rfl, rfl, rfl⟩
  have meets : Meets (.number (.integer k fits')) (.number (.double (Double.ofInt i))) := by
    rw [meets_of_isPrimitive rfl]
    simp [samePrimitive, Number.sameValue, Number.toDouble, Double.sameValue, same]
  have meets' : Meets (.number (.double (Double.ofInt i))) (.number (.integer i fits)) := by
    rw [meets_of_isPrimitive rfl]
    simp [samePrimitive, Number.sameValue, Number.toDouble, Double.sameValue]
  have uncrossing := uncrossed _ _ _ _ inC inB inA inB (by rw [back]; rfl) (by rw [first]; rfl)
    meets meets'
  have equal := (meets_of_isPrimitive rfl).mp uncrossing.1
  simp only [samePrimitive, Number.sameValue, beq_iff_eq] at equal
  omega

/-- Sequences of patterns that can be uncrossed match as soon as their elements can be paired. -/
theorem meets_of_pairing (uncrossed : Uncrossed T) {hs ms : List Json} (inHs : ∀ p ∈ hs, T p)
    (inMs : ∀ p ∈ ms, T p) (pairing : Pairing Meets hs ms) : Meets (.array hs) (.array ms) := by
  have sorts : ∀ {items : List Json}, (∀ p ∈ items, T p) → ∃ others, sorted items = some others ∧
      others ~ items ∧ others.Pairwise fun a b => (order a b).isLE = true := by
    intro items inside
    have free : Unsqueezed items := fun a inA b inB c inC =>
      uncrossed.not_squeezed (inside a inA) (inside b inB) (inside c inC)
    obtain ⟨others, sorts, ordered⟩ := exists_sorted free
    exact ⟨others, sorts, sorted_perm sorts, ordered⟩
  obtain ⟨hs', sortsH, permH, orderedH⟩ := sorts inHs
  obtain ⟨ms', sortsM, permM, orderedM⟩ := sorts inMs
  refine meets_array.mpr ⟨hs', ms', sortsH, sortsM, ?_⟩
  apply forall₂_of_pairing orderedH orderedM _ (pairing.perm permH.symm permM.symm)
  intro a inA a' inA' b inB b' inB'
  exact uncrossed a a' b b' (inHs a (permH.mem_iff.mp inA)) (inHs a' (permH.mem_iff.mp inA'))
    (inMs b (permM.mem_iff.mp inB)) (inMs b' (permM.mem_iff.mp inB'))

end Uncrossed

theorem sorted_pair {a b : Pattern} (ordered : (order a b).isLE = true) :
    sorted [a, b] = some [a, b] := by
  have stays : precedes b a = false := precedes_eq_false_iff.mpr ordered
  refine inOrder_eq_some_iff.mpr ⟨_, Sorting.sort_of_few (by simp), ?_⟩
  simp [Sorting.insertion, Sorting.insertAll, Sorting.insertFromEnd, List.range_succ, stays]

/-- Among some patterns a full match of sequences is the same as a pairing exactly if they can be
uncrossed: two crossing pairs already make two sequences that can be paired. -/
theorem meets_array_iff_pairing (T : Pattern → Prop) :
    (∀ hs ms : List Json, (∀ p ∈ hs, T p) → (∀ p ∈ ms, T p) →
      (Meets (.array hs) (.array ms) ↔ Pairing Meets hs ms)) ↔ Uncrossed T := by
  constructor
  · intro equivalent a a' b b' inA inA' inB inB' ordered ordered' meets meets'
    have pairing : Pairing Meets [a, a'] [b, b'] :=
      .of_forall₂_left (.swap a a' []) (.cons meets' (.cons meets .nil))
    have matched := (equivalent [a, a'] [b, b'] (by simp [inA, inA']) (by simp [inB, inB'])).mpr
      pairing
    obtain ⟨_, _, sorts, sorts', related⟩ := meets_array.mp matched
    cases (sorted_pair ordered).symm.trans sorts
    cases (sorted_pair ordered').symm.trans sorts'
    rw [List.forall₂_cons, List.forall₂_cons] at related
    exact ⟨related.1, related.2.1⟩
  · intro uncrossed hs ms inHs inMs
    exact ⟨pairing_of_meets, uncrossed.meets_of_pairing inHs inMs⟩

/-- The elements of the sequences at any depth of a pattern. -/
inductive ElementOf : Pattern → Pattern → Prop where
  | here {items : List Json} {p : Json} (member : p ∈ items) : ElementOf p (.array items)
  | inItem {items : List Json} {p q : Json} (member : q ∈ items) (below : ElementOf p q) :
      ElementOf p (.array items)
  | inField {fields : List (String × Json)} {f : String × Json} {p : Json} (member : f ∈ fields)
      (below : ElementOf p f.2) : ElementOf p (.object fields)

/-- Primitives have no elements below them. -/
theorem ElementOf.mem_of_isPrimitive {items : List Json} {p : Pattern}
    (element : ElementOf p (.array items)) (primitive : ∀ q ∈ items, isPrimitive q = true) :
    p ∈ items := by
  cases element with
  | here member => exact member
  | inItem member below =>
      have own := primitive _ member
      cases below <;> exact nomatch own

/-- Alike patterns match if the elements of their sequences can be uncrossed. -/
theorem meets_of_alike {T : Pattern → Prop} (uncrossed : Uncrossed T) {h m : Pattern}
    (alike : Alike h m) (inH : ∀ p, ElementOf p h → T p) (inM : ∀ p, ElementOf p m → T p) :
    Meets h m := by
  induction alike with
  | primitive left _ same => exact (meets_of_isPrimitive left).mpr same
  | sequence σ _ inductionHypothesis =>
      apply uncrossed.meets_of_pairing (fun p member => inH p (.here member))
        (fun p member => inM p (.here member))
      refine ⟨σ, ?_⟩
      intro i
      exact inductionHypothesis i (fun p below => inH p (.inItem (List.get_mem _ _) below))
        (fun p below => inM p (.inItem (List.get_mem _ _) below))
  | mapping names _ inductionHypothesis =>
      apply meets_object.mpr
      refine forall₂_fields.mpr ⟨names, ?_⟩
      intro i here there
      exact inductionHypothesis i here there
        (fun p below => inH p (.inField (List.get_mem _ _) below))
        (fun p below => inM p (.inField (List.get_mem _ _) below))

/-! ### Where matching and order go together -/

/-- Matching passes on, and what stands between two patterns that match, matches them. -/
structure Compatible (T : Pattern → Prop) : Prop where
  joins : ∀ a b c, T a → T b → T c → Meets a b → Meets b c → Meets a c
  between : ∀ a b c, T a → T b → T c → (order a b).isLE = true → (order b c).isLE = true →
    Meets a c → Meets a b

/-- Where matching and order go together, patterns can be uncrossed. -/
theorem Compatible.uncrossed {T : Pattern → Prop} (compatible : Compatible T) : Uncrossed T := by
  intro a a' b b' inA inA' inB inB' ordered ordered' meets meets'
  have front : Meets a b := by
    by_cases first : order a b = .lt
    · exact compatible.between a b b' inA inB inB' (by rw [first]; rfl) ordered' meets
    · exact (compatible.between b a a' inB inA inA' (isLE_of_order_lt first) ordered
        meets'.symm).symm
  refine ⟨front, ?_⟩
  -- The first pair joins the two that cross.
  exact compatible.joins a' b b' inA' inB inB' meets'
    (compatible.joins b a b' inB inA inB' front.symm meets)

end EventDispatch.Pattern
