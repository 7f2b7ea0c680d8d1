import EventDispatch.Sorting.Runs
import Mathlib.Data.List.Count
import Mathlib.Data.List.Perm.Basic
/-!
Sorting by insertion.

Purpose: insertion keeps the items, and puts them in order where the comparison is an order of them
that is total up to ties. Whether it is can be read off the numbers of items that precede each.

Main exports: `Sorting.insertion_perm`, `Sorting.Coherent`, `Sorting.coherent_iff`,
`Sorting.pairwise_insertion`.
-/

namespace EventDispatch.Sorting

open scoped List

variable {α : Type} {less : α → α → Bool}

/-! ### Insertion keeps the items -/

theorem insertFromEnd_perm (less : α → α → Bool) (x : α) (run : List α) :
    insertFromEnd less x run ~ x :: run := by
  induction run with
  | nil => exact .refl _
  | cons y ys inductionHypothesis =>
      unfold insertFromEnd
      split
      · exact (inductionHypothesis.cons y).trans (.swap x y ys)
      · exact .refl _

theorem insertAll_perm (less : α → α → Bool) (run items : List α) :
    insertAll less run items ~ run ++ items := by
  suffices folded : ∀ reversed : List α,
      items.foldl (fun run x => insertFromEnd less x run) reversed ~ items ++ reversed by
    calc insertAll less run items
        ~ items.foldl (fun run x => insertFromEnd less x run) run.reverse := List.reverse_perm _
      _ ~ items ++ run.reverse := folded run.reverse
      _ ~ items ++ run := (List.reverse_perm run).append_left items
      _ ~ run ++ items := List.perm_append_comm
  induction items with
  | nil => exact fun _ => .refl _
  | cons x items inductionHypothesis =>
      intro reversed
      calc items.foldl (fun run x => insertFromEnd less x run) (insertFromEnd less x reversed)
          ~ items ++ insertFromEnd less x reversed := inductionHypothesis _
        _ ~ items ++ x :: reversed := (insertFromEnd_perm less x reversed).append_left items
        _ ~ x :: items ++ reversed := List.perm_middle

theorem insertion_perm (less : α → α → Bool) (items : List α) : insertion less items ~ items :=
  insertAll_perm less [] items

/-! ### Orders -/

/-- A comparison is an order of some items, total up to ties: no two precede each other, and what
does not come before passes on. -/
structure Coherent (less : α → α → Bool) (items : List α) : Prop where
  asymm : ∀ x ∈ items, ∀ y ∈ items, less x y = true → less y x = false
  passes : ∀ x ∈ items, ∀ y ∈ items, ∀ z ∈ items, less x y = false → less y z = false →
    less x z = false

/-- A weaker test that one more item passes counts more items. -/
theorem countP_lt_countP {p q : α → Bool} {items : List α} {x : α} (member : x ∈ items)
    (weaker : ∀ y ∈ items, p y = true → q y = true) (fails : p x = false) (passes : q x = true) :
    items.countP p < items.countP q := by
  obtain ⟨front, back, rfl⟩ := List.append_of_mem member
  have before : front.countP p ≤ front.countP q :=
    List.countP_mono_left fun y inFront => weaker y (by simp [inFront])
  have behind : back.countP p ≤ back.countP q :=
    List.countP_mono_left fun y inBack => weaker y (by simp [inBack])
  simp only [List.countP_append, List.countP_cons, fails, passes]
  simp
  omega

/-- In an order an item precedes another one exactly if fewer items precede it. -/
theorem Coherent.less_iff {items : List α} (ordered : Coherent less items) {x y : α}
    (inX : x ∈ items) (inY : y ∈ items) :
    less x y = true ↔ items.countP (less · x) < items.countP (less · y) := by
  have self : less x x = false := by
    cases own : less x x with
    | false => rfl
    | true => exact own.symm.trans (ordered.asymm x inX x inX own)
  constructor
  · intro before
    apply countP_lt_countP (p := (less · x)) (q := (less · y)) inX _ self before
    intro z inZ below
    by_contra notBelow
    have back := ordered.passes z inZ y inY x inX (by simpa using notBelow)
      (ordered.asymm x inX y inY before)
    rw [below] at back
    exact absurd back (by simp)
  · intro fewer
    by_contra notBefore
    apply Nat.not_le.mpr fewer
    apply List.countP_mono_left
    intro z inZ below
    by_contra notBelow
    have back := ordered.passes z inZ x inX y inY (by simpa using notBelow)
      (by simpa using notBefore)
    rw [below] at back
    exact absurd back (by simp)

theorem coherent_iff {items : List α} : coherent less items = true ↔ Coherent less items := by
  have ranks : coherent less items = true ↔ ∀ x ∈ items, ∀ y ∈ items,
      (less x y = true ↔ items.countP (less · x) < items.countP (less · y)) := by
    simp only [coherent, List.all_map, List.all_eq_true, Function.comp_apply, beq_iff_eq]
    refine forall₂_congr fun x _ => forall₂_congr fun y _ => ?_
    rw [Bool.eq_iff_iff, decide_eq_true_eq]
  rw [ranks]
  constructor
  · intro counted
    have stays : ∀ x ∈ items, ∀ y ∈ items,
        (less x y = false ↔ items.countP (less · y) ≤ items.countP (less · x)) := by
      intro x inX y inY
      rw [← Bool.not_eq_true, counted x inX y inY, Nat.not_lt]
    constructor
    · intro x inX y inY before
      exact (stays y inY x inX).mpr (Nat.le_of_lt ((counted x inX y inY).mp before))
    · intro x inX y inY z inZ first second
      exact (stays x inX z inZ).mpr
        (Nat.le_trans ((stays y inY z inZ).mp second) ((stays x inX y inY).mp first))
  · exact fun ordered x inX y inY => ordered.less_iff inX inY

/-! ### Insertion into a run -/

/-- Inserting into a run that descends leaves it descending. -/
theorem pairwise_insertFromEnd {items run : List α} {x : α} (ordered : Coherent less items)
    (inItems : x ∈ items) (runInItems : ∀ y ∈ run, y ∈ items)
    (descends : run.Pairwise fun y z => less y z = false) :
    (insertFromEnd less x run).Pairwise fun y z => less y z = false := by
  induction run with
  | nil => exact List.pairwise_singleton _ _
  | cons y ys inductionHypothesis =>
      obtain ⟨first, rest⟩ := List.pairwise_cons.mp descends
      obtain ⟨own, others⟩ := List.forall_mem_cons.mp runInItems
      unfold insertFromEnd
      split
      · rename_i passed
        refine List.pairwise_cons.mpr ⟨?_, inductionHypothesis others rest⟩
        intro z member
        rcases List.mem_cons.mp ((insertFromEnd_perm less x ys).mem_iff.mp member) with rfl | before
        · exact ordered.asymm z inItems y own passed
        · exact first z before
      · rename_i stays
        have here : less x y = false := by simpa using stays
        refine List.pairwise_cons.mpr ⟨?_, descends⟩
        intro z member
        rcases List.mem_cons.mp member with rfl | before
        · exact here
        · exact ordered.passes x inItems y own z (others z before) here (first z before)

/-- Insertion puts items in order: none precedes one that stands before it. -/
theorem pairwise_insertion {items : List α} (ordered : Coherent less items) :
    (insertion less items).Pairwise fun x y => less y x = false := by
  suffices descends : ∀ later run : List α, (∀ x ∈ later, x ∈ items) → (∀ x ∈ run, x ∈ items) →
      (run.Pairwise fun y z => less y z = false) →
      (later.foldl (fun run x => insertFromEnd less x run) run).Pairwise
        fun y z => less y z = false by
    unfold insertion insertAll
    rw [List.pairwise_reverse]
    exact descends items [] (fun _ member => member) (by simp) List.Pairwise.nil
  intro later
  induction later with
  | nil =>
      intro run _ _ descends
      exact descends
  | cons x later inductionHypothesis =>
      intro run inItems runInItems descends
      obtain ⟨own, others⟩ := List.forall_mem_cons.mp inItems
      apply inductionHypothesis (insertFromEnd less x run) others
      · intro y member
        rcases List.mem_cons.mp ((insertFromEnd_perm less x run).mem_iff.mp member) with
          rfl | before
        · exact own
        · exact runInItems y before
      · exact pairwise_insertFromEnd ordered own runInItems descends

end EventDispatch.Sorting
