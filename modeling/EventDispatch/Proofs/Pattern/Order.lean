import EventDispatch.Pattern.Order
import EventDispatch.Proofs.Json.Rounding
import EventDispatch.Proofs.Sorting.Rearrangement
/-!
Laws of the order of patterns.

Purpose: exchanging two patterns reverses their order. The order passes on from pair to pair, with
one exception: a double may stand between two integers that both round to it, though the greater
integer comes first. Integers are compared exactly with each other and by rounding with doubles,
so both tie with the double and not with each other. Where no such triple is among the items,
sorting does not crash and leaves them in order.

Main exports: `Pattern.Squeezed`, `Pattern.order_swap`, `Pattern.order_trans`,
`Pattern.Unsqueezed`, `Pattern.sorted_perm`, `Pattern.inOrder_map`, `Pattern.exists_sorted`,
`Pattern.preorder_but_for_squeezed`.
-/

namespace EventDispatch

open scoped List

/-! ### Numbers -/

namespace Number

/-- The place of the nearest double. -/
def place (n : Number) : Int := n.toDouble.place

/-- Beside a double, numbers are ordered by the places of their doubles. -/
theorem order_double_left (x : Double) (n : Number) :
    order (.double x) n = compare x.place n.place := rfl

theorem order_double_right (m : Number) (x : Double) :
    order m (.double x) = compare m.place x.place := by
  cases m <;> rfl

theorem order_swap (m n : Number) : m.order n = (n.order m).swap := by
  cases m with
  | integer i _ =>
      cases n with
      | integer j _ => exact Std.OrientedOrd.eq_swap
      | double y => exact Std.OrientedOrd.eq_swap
  | double x =>
      rw [order_double_left, order_double_right]
      exact Std.OrientedOrd.eq_swap

/-- Rounding to doubles keeps the order of numbers. -/
theorem place_le_of_isLE {m n : Number} (le : (m.order n).isLE = true) : m.place ≤ n.place := by
  cases m with
  | integer i _ =>
      cases n with
      | integer j _ => exact Double.place_ofInt_le (Int.isLE_compare.mp le)
      | double y =>
          rw [order_double_right] at le
          exact Int.isLE_compare.mp le
  | double x =>
      rw [order_double_left] at le
      exact Int.isLE_compare.mp le

end Number

namespace Pattern

/-- A double between two integers that both round to it, of which the greater one comes first. -/
inductive Squeezed : Pattern → Pattern → Pattern → Prop where
  | between {i k : Int} (fits : Number.Fits i) (fits' : Number.Fits k) (below : k < i)
      (same : Double.ofInt k = Double.ofInt i) :
      Squeezed (.number (.integer i fits)) (.number (.double (Double.ofInt i)))
        (.number (.integer k fits'))

/-- The order of numbers passes on, unless the number in the middle is a squeezed double. -/
theorem number_order_trans {l m n : Number} (first : (l.order m).isLE = true)
    (second : (m.order n).isLE = true)
    (free : ¬ Squeezed (.number l) (.number m) (.number n)) : (l.order n).isLE = true := by
  have below := Number.place_le_of_isLE first
  have above := Number.place_le_of_isLE second
  have ends : l.place ≤ n.place := Int.le_trans below above
  cases l with
  | double x =>
      rw [Number.order_double_left]
      exact Int.isLE_compare.mpr ends
  | integer i fits =>
      cases n with
      | double z =>
          rw [Number.order_double_right]
          exact Int.isLE_compare.mpr ends
      | integer k fits' =>
          cases m with
          | integer j _ =>
              exact Int.isLE_compare.mpr
                (Int.le_trans (Int.isLE_compare.mp first) (Int.isLE_compare.mp second))
          | double y =>
              apply Int.isLE_compare.mpr
              by_contra notAbove
              have smaller : k < i := Int.not_le.mp notAbove
              have rounded : (Double.ofInt k).place ≤ (Double.ofInt i).place :=
                Double.place_ofInt_le (Int.le_of_lt smaller)
              -- The places of the integers enclose that of the double from both sides.
              have here : y = Double.ofInt i :=
                Double.place_injective (Int.le_antisymm (Int.le_trans above rounded) below)
              have same : Double.ofInt k = Double.ofInt i :=
                Double.place_injective (Int.le_antisymm rounded ends)
              subst here
              exact free (.between fits fits' smaller same)

/-! ### Patterns -/

/-- Patterns of different kinds are ordered by kind. -/
theorem order_of_rank_ne {a b : Pattern} (differ : rank a ≠ rank b) :
    order a b = compare (rank a) (rank b) := by
  cases a <;> cases b <;> first | rfl | exact absurd rfl differ

/-- Exchanging two patterns reverses their order. -/
theorem order_swap (a b : Pattern) : order a b = (order b a).swap := by
  cases a with
  | null => cases b <;> rfl
  | bool x =>
      cases b with
      | bool y => exact Std.OrientedOrd.eq_swap
      | _ => rfl
  | number x =>
      cases b with
      | number y => exact Number.order_swap x y
      | _ => rfl
  | string x =>
      cases b with
      | string y => exact Std.OrientedOrd.eq_swap
      | _ => rfl
  | array x =>
      cases b with
      | array y => exact Std.OrientedOrd.eq_swap
      | _ => rfl
  | object x =>
      cases b with
      | object y => exact Std.OrientedOrd.eq_swap
      | _ => rfl

/-- Of two patterns one is not after the other. -/
theorem isLE_of_order_lt {a b : Pattern} (notBefore : order a b ≠ .lt) :
    (order b a).isLE = true := by
  rw [order_swap b a]
  cases outcome : order a b with
  | lt => exact absurd outcome notBefore
  | eq => rfl
  | gt => rfl

theorem rank_le_of_isLE {a b : Pattern} (le : (order a b).isLE = true) : rank a ≤ rank b := by
  by_cases same : rank a = rank b
  · exact Nat.le_of_eq same
  · rw [order_of_rank_ne same] at le
    exact Nat.isLE_compare.mp le

/-- What stands between two patterns of one kind is of this kind. -/
theorem rank_between {a b c : Pattern} (below : (order a b).isLE = true)
    (above : (order b c).isLE = true) (ends : rank a = rank c) : rank b = rank a := by
  have first := rank_le_of_isLE below
  have second := rank_le_of_isLE above
  omega

/-- The order of patterns passes on, unless the pattern in the middle is a squeezed double. -/
theorem order_trans {a b c : Pattern} (first : (order a b).isLE = true)
    (second : (order b c).isLE = true) (free : ¬ Squeezed a b c) : (order a c).isLE = true := by
  by_cases ends : rank a = rank c
  · have middle := rank_between first second ends
    cases a with
    | null =>
        cases c with
        | null => rfl
        | _ => exact nomatch ends
    | bool x =>
        cases b with
        | bool y =>
            cases c with
            | bool z => exact Std.TransOrd.isLE_trans first second
            | _ => exact nomatch ends
        | _ => exact nomatch middle
    | number x =>
        cases b with
        | number y =>
            cases c with
            | number z => exact number_order_trans first second free
            | _ => exact nomatch ends
        | _ => exact nomatch middle
    | string x =>
        cases b with
        | string y =>
            cases c with
            | string z => exact Std.TransOrd.isLE_trans first second
            | _ => exact nomatch ends
        | _ => exact nomatch middle
    | array x =>
        cases b with
        | array y =>
            cases c with
            | array z => exact Std.TransOrd.isLE_trans (α := String) first second
            | _ => exact nomatch ends
        | _ => exact nomatch middle
    | object x =>
        cases b with
        | object y =>
            cases c with
            | object z => exact Std.TransOrd.isLE_trans (α := String) first second
            | _ => exact nomatch ends
        | _ => exact nomatch middle
  · rw [order_of_rank_ne ends]
    exact Nat.isLE_compare.mpr (Nat.le_trans (rank_le_of_isLE first) (rank_le_of_isLE second))

namespace Squeezed

variable {a b c : Pattern}

/-- A squeezed double ties with both integers, which stand in the wrong order. -/
theorem orders (squeezed : Squeezed a b c) :
    order a b = .eq ∧ order b c = .eq ∧ order a c = .gt := by
  cases squeezed with
  | @between i k fits fits' below same =>
      refine ⟨Int.compare_eq_eq.mpr rfl, ?_, Int.compare_eq_gt.mpr below⟩
      exact Int.compare_eq_eq.mpr (congrArg Double.place same.symm)

/-- Only integers of at least `2 ^ 53` in magnitude squeeze a double. -/
theorem large {i k : Int} {fits : Number.Fits i} {fits' : Number.Fits k}
    (squeezed : Squeezed (.number (.integer i fits)) b (.number (.integer k fits'))) :
    2 ^ 53 ≤ i.natAbs ∧ 2 ^ 53 ≤ k.natAbs := by
  cases squeezed with
  | between _ _ below same =>
      constructor
      · apply Nat.not_lt.mp
        intro small
        have equal := Double.ofInt_injective_of_small small same.symm
        omega
      · apply Nat.not_lt.mp
        intro small
        have equal := Double.ofInt_injective_of_small small same
        omega

end Squeezed

/-! ### Sorting -/

theorem precedes_eq_false_iff {a b : Pattern} :
    precedes a b = false ↔ (order b a).isLE = true := by
  rw [order_swap b a]
  unfold precedes
  cases order a b <;> decide

/-- No squeezed double is among some patterns. -/
def Unsqueezed (items : List Pattern) : Prop :=
  ∀ a ∈ items, ∀ b ∈ items, ∀ c ∈ items, ¬ Squeezed a b c

/-- Without squeezed doubles the positions of patterns are ordered by the patterns. -/
theorem coherent_positions {items : List Pattern} (free : Unsqueezed items) :
    Sorting.Coherent (fun i j => precedes (items.getD i .null) (items.getD j .null))
      (List.range items.length) := by
  have element : ∀ i ∈ List.range items.length, items.getD i .null ∈ items := by
    intro i inRange
    simp [List.getD_eq_getElem?_getD, List.mem_range.mp inRange]
  constructor
  · intro i _ j _ before
    rw [precedes_eq_false_iff, beq_iff_eq.mp before]
    rfl
  · intro i inI j inJ k inK first second
    rw [precedes_eq_false_iff] at first second ⊢
    exact order_trans second first (free _ (element k inK) _ (element j inJ) _ (element i inI))

theorem filterMap_range {α : Type} (xs : List α) :
    (List.range xs.length).filterMap (xs[·]?) = xs := by
  induction xs with
  | nil => rfl
  | cons x xs inductionHypothesis =>
      rw [List.length_cons, List.range_succ_eq_map, List.filterMap_cons, List.filterMap_map]
      exact congrArg (x :: ·) inductionHypothesis

theorem inOrder_eq_some_iff {α : Type} {items : List Pattern} {xs ys : List α} :
    inOrder items xs = some ys ↔
      ∃ positions, arrangement items = some positions ∧ positions.filterMap (xs[·]?) = ys :=
  Option.map_eq_some_iff

/-- What belongs to the elements is rearranged. -/
theorem inOrder_perm {α : Type} {items : List Pattern} {xs ys : List α}
    (length : xs.length = items.length) (sorts : inOrder items xs = some ys) : ys ~ xs := by
  obtain ⟨positions, arranged, rfl⟩ := inOrder_eq_some_iff.mp sorts
  calc positions.filterMap (xs[·]?)
      ~ (List.range items.length).filterMap (xs[·]?) := (Sorting.sort_perm arranged).filterMap _
    _ = xs := by rw [← length, filterMap_range]

theorem sorted_perm {items others : List Pattern} (sorts : sorted items = some others) :
    others ~ items :=
  inOrder_perm rfl sorts

/-- What is made of the elements one by one is sorted like the elements. -/
theorem inOrder_map {α : Type} (items : List Pattern) (f : Pattern → α) :
    inOrder items (items.map f) = (sorted items).map (List.map f) := by
  unfold sorted inOrder
  rw [Option.map_map]
  congr 1
  funext positions
  simp only [Function.comp_apply, List.map_filterMap, List.getElem?_map]

/-- Sorting up to twenty patterns does not crash. -/
theorem exists_sorted_of_few {items : List Pattern} (few : items.length ≤ 20) :
    ∃ others, sorted items = some others := by
  have short : (List.range items.length).length ≤ 20 := by rwa [List.length_range]
  exact ⟨_, inOrder_eq_some_iff.mpr ⟨_, Sorting.sort_of_few short, rfl⟩⟩

/-- Nor does sorting patterns without a squeezed double, which puts them in order. -/
theorem exists_sorted {items : List Pattern} (free : Unsqueezed items) :
    ∃ others, sorted items = some others ∧
      others.Pairwise fun a b => (order a b).isLE = true := by
  have coherent := coherent_positions free
  refine ⟨_, inOrder_eq_some_iff.mpr ⟨_, Sorting.sort_of_coherent coherent, rfl⟩, ?_⟩
  rw [List.pairwise_filterMap]
  refine (Sorting.pairwise_insertion coherent).imp ?_
  intro i j inTurn a first b second
  simp only [List.getD_eq_getElem?_getD, first, second, Option.getD_some] at inTurn
  exact precedes_eq_false_iff.mp inTurn

/-! ### The order as a preorder -/

/-- The order is a total preorder but for doubles that are squeezed between two integers. It turns
round when the patterns are exchanged. It fails to pass on from `a` to `b` to `c` exactly where `b`
is a double, and `a` and `c` are integers that round to it, the greater one first, both of at least
`2 ^ 53` in magnitude. Items without such a triple are sorted without a crash, and then they are in
order. -/
theorem preorder_but_for_squeezed (a b c : Pattern) :
    order a b = (order b a).swap ∧
    (((order a b).isLE = true ∧ (order b c).isLE = true ∧ ¬ (order a c).isLE = true) ↔
      Squeezed a b c) ∧
    (∀ (i k : Int) (fits : Number.Fits i) (fits' : Number.Fits k),
      Squeezed (.number (.integer i fits)) b (.number (.integer k fits')) →
        2 ^ 53 ≤ i.natAbs ∧ 2 ^ 53 ≤ k.natAbs) ∧
    ∀ items : List Pattern,
      (∀ others, sorted items = some others → others ~ items) ∧
      ((∀ a ∈ items, ∀ b ∈ items, ∀ c ∈ items, ¬ Squeezed a b c) →
        ∃ others, sorted items = some others ∧
          others.Pairwise fun a b => (order a b).isLE = true) := by
  refine ⟨order_swap a b, ?_, fun _ _ _ _ => Squeezed.large,
    fun items => ⟨fun others => sorted_perm, exists_sorted⟩⟩
  constructor
  · rintro ⟨first, second, fails⟩
    by_contra free
    exact fails (order_trans first second free)
  · intro squeezed
    obtain ⟨first, second, third⟩ := squeezed.orders
    rw [first, second, third]
    exact ⟨rfl, rfl, by decide⟩

/-- The integer `2 ^ 53 + 1` is not after the double of `2 ^ 53`, which is not after the integer
`2 ^ 53`; yet `2 ^ 53 + 1` is after `2 ^ 53`. -/
theorem order_not_transitive :
    ¬ ∀ a b c : Pattern, (order a b).isLE = true → (order b c).isLE = true →
      (order a c).isLE = true := by
  intro transitive
  have same : Double.ofInt (2 ^ 53) = Double.ofInt (2 ^ 53 + 1) := by decide +kernel
  have squeezed : Squeezed (.number (.integer (2 ^ 53 + 1) (by decide)))
      (.number (.double (Double.ofInt (2 ^ 53 + 1)))) (.number (.integer (2 ^ 53) (by decide))) :=
    .between _ _ (by decide) same
  obtain ⟨first, second, third⟩ := squeezed.orders
  have last := transitive _ _ _ (by rw [first]; rfl) (by rw [second]; rfl)
  rw [third] at last
  exact absurd last (by decide)

/-- The integers `2 ^ 53` and `2 ^ 53 + 1` with the double between them, seven times over. -/
def squeezedNumbers : List Pattern :=
  (List.replicate 7 [.number (.integer (2 ^ 53) (by decide)),
    .number (.double (Double.ofInt (2 ^ 53))),
    .number (.integer (2 ^ 53 + 1) (by decide))]).flatten

/-- In such a sequence no order is found: sorting it crashes. -/
theorem sorted_squeezedNumbers : sorted squeezedNumbers = none := by
  decide +kernel

end Pattern
end EventDispatch
