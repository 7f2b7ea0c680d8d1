import EventDispatch.Proofs.Pattern.Crossing
import EventDispatch.Proofs.Pattern.FullMatch
/-!
Full matches of reworded patterns.

Purpose: a pattern is reworded by permuting sequences at any depth and by writing integers as
doubles of the same value. Being alike does not notice this; a full match does where it cannot
uncross the elements of a sequence. Primitives whose integers are doubles themselves, and mappings
without doubles and sequences, can always be uncrossed: among them matching goes together with the
order.

Main exports: `Pattern.Reworded`, `Pattern.Simple`, `Pattern.compatible_simple`,
`Pattern.full_match_and_pairing`.
-/

namespace EventDispatch

/-! ### Numbers of the same value -/

namespace Double

theorem isZero_iff_place (x : Double) : x.isZero = true ↔ -1 ≤ x.place ∧ x.place ≤ 0 := by
  unfold isZero place
  rw [beq_iff_eq]
  split <;> omega

theorem sameValue_trans {x y z : Double} (first : x.sameValue y = true)
    (second : y.sameValue z = true) : x.sameValue z = true := by
  simp only [sameValue, Bool.or_eq_true, Bool.and_eq_true, beq_iff_eq] at *
  rcases first with rfl | ⟨zero, zero'⟩
  · exact second
  · rcases second with rfl | ⟨_, zero''⟩
    · exact Or.inr ⟨zero, zero'⟩
    · exact Or.inr ⟨zero, zero''⟩

/-- What stands between two doubles of the same value is of their value. -/
theorem sameValue_between {x y z : Double} (below : x.place ≤ y.place) (above : y.place ≤ z.place)
    (ends : x.sameValue z = true) : x.sameValue y = true := by
  simp only [sameValue, Bool.or_eq_true, Bool.and_eq_true, beq_iff_eq, isZero_iff_place] at *
  rcases ends with rfl | ⟨zero, zero'⟩
  · exact Or.inl (place_injective (Int.le_antisymm below above))
  · exact Or.inr ⟨zero, by omega⟩

end Double

namespace Number

/-- An integer is below `2 ^ 53` in magnitude, where every integer is a double. -/
def Small (n : Number) : Prop := ∀ i fits, n = .integer i fits → i.natAbs < 2 ^ 53

theorem small_integer {i : Int} (fits : Fits i) (small : i.natAbs < 2 ^ 53) :
    (integer i fits).Small := by
  intro j _ equal
  rw [← Number.integer.inj equal]
  exact small

theorem small_double (x : Double) : (double x).Small := by
  intro i _ equal
  exact Number.noConfusion equal

theorem sameValue_toDouble {m n : Number} (same : m.sameValue n = true) :
    m.toDouble.sameValue n.toDouble = true := by
  cases m with
  | double x => exact same
  | integer i _ =>
      cases n with
      | double y => exact same
      | integer j _ =>
          rw [toDouble, toDouble, beq_iff_eq.mp same]
          simp [Double.sameValue]

/-- A small number has the value of another one if their doubles have one value. -/
theorem sameValue_iff_toDouble {m n : Number} (small : m.Small) :
    m.sameValue n = true ↔ m.toDouble.sameValue n.toDouble = true := by
  constructor
  · exact sameValue_toDouble
  · intro same
    cases m with
    | double x => exact same
    | integer i _ =>
        cases n with
        | double y => exact same
        | integer j _ =>
            exact beq_iff_eq.mpr (Double.eq_of_sameValue_ofInt (small i _ rfl) same)

end Number

namespace Pattern

/-! ### Rewording -/

/-- A primitive is kept, or a small integer is written as a double, or the other way round. -/
inductive Respelt : Pattern → Pattern → Prop where
  | same (p : Pattern) : Respelt p p
  | asDouble {i : Int} (fits : Number.Fits i) (small : i.natAbs < 2 ^ 53) :
      Respelt (.number (.integer i fits)) (.number (.double (Double.ofInt i)))
  | asInteger {i : Int} (fits : Number.Fits i) (small : i.natAbs < 2 ^ 53) :
      Respelt (.number (.double (Double.ofInt i))) (.number (.integer i fits))

/-- The same pattern up to the order of its sequences, at any depth, and the spelling of its
numbers. -/
abbrev Reworded : Pattern → Pattern → Prop := UpToOrder Respelt

theorem Respelt.symm {p q : Pattern} (respelt : Respelt p q) : Respelt q p := by
  cases respelt with
  | same => exact .same p
  | asDouble fits small => exact .asInteger fits small
  | asInteger fits small => exact .asDouble fits small

theorem samePrimitive_respelt {p q r : Pattern} (respelt : Respelt p q)
    (same : samePrimitive p r = true) : samePrimitive q r = true := by
  cases respelt with
  | same => exact same
  | @asDouble i fits small =>
      cases r with
      | number n => exact Number.sameValue_toDouble (m := .integer i fits) same
      | _ => exact nomatch same
  | @asInteger i fits small =>
      cases r with
      | number n =>
          exact (Number.sameValue_iff_toDouble (Number.small_integer fits small)).mpr same
      | _ => exact nomatch same

/-- Patterns stay alike when they are reworded. -/
theorem Alike.reworded {h h' m m' : Pattern} (alike : Alike h m) (left : Reworded h h')
    (right : Reworded m m') : Alike h' m' := by
  have back : Reworded h' h := left.symm fun _ _ => Respelt.symm
  have front : Alike h' m := by
    refine back.trans ?_ alike
    intro p q r respelt same
    exact samePrimitive_respelt respelt.symm same
  refine front.trans ?_ right
  intro p q r same respelt
  rw [samePrimitive_comm] at same ⊢
  exact samePrimitive_respelt respelt same

theorem Reworded.refl (p : Pattern) : Reworded p p := by
  induction p using inductionOn with
  | primitive p primitive => exact .primitive primitive primitive (.same p)
  | array items inductionHypothesis =>
      exact .sequence (Equiv.refl _) fun i => inductionHypothesis _ (List.get_mem _ _)
  | object fields inductionHypothesis =>
      exact .mapping rfl fun i _ _ => inductionHypothesis _ (List.get_mem _ _)

/-! ### Patterns that can be uncrossed -/

/-- A pattern without doubles and without sequences at any depth. -/
inductive Rigid : Pattern → Prop where
  | null : Rigid .null
  | bool (b : Bool) : Rigid (.bool b)
  | integer (i : Int) (fits : Number.Fits i) : Rigid (.number (.integer i fits))
  | string (s : String) : Rigid (.string s)
  | mapping {fields : List (String × Json)} (values : ∀ f ∈ fields, Rigid f.2) :
      Rigid (.object fields)

/-- A primitive whose integers are small, or a rigid mapping. -/
inductive Simple : Pattern → Prop where
  | primitive {p : Pattern} (primitive : isPrimitive p = true)
      (small : ∀ n, p = .number n → n.Small) : Simple p
  | mapping {fields : List (String × Json)} (rigid : Rigid (.object fields)) :
      Simple (.object fields)

/-- Rigid patterns have nothing to sort. -/
theorem Rigid.sortable {p : Pattern} (rigid : Rigid p) : Sortable p := by
  induction rigid with
  | mapping _ inductionHypothesis => exact .mapping inductionHypothesis
  | _ => exact .primitive rfl

/-- Rigid patterns match only if they are equal. -/
theorem Rigid.eq_of_meets {h : Pattern} : ∀ {m : Pattern}, Rigid h → Rigid m → Meets h m →
    h = m := by
  induction h using inductionOn with
  | primitive h primitive =>
      intro m rigid rigid' meets
      have same := (meets_of_isPrimitive primitive).mp meets
      cases rigid <;> cases rigid' <;>
        simp_all [samePrimitive, isPrimitive, Number.sameValue]
  | array hs =>
      intro m rigid
      cases rigid
  | object hs inductionHypothesis =>
      intro m rigid rigid' meets
      obtain ⟨ms, rfl⟩ := exists_object_of_meets meets
      cases rigid with
      | mapping values =>
          cases rigid' with
          | mapping values' =>
              have fields := List.forall₂_iff_get.mp (meets_object.mp meets)
              refine congrArg Json.object (List.ext_get fields.1 ?_)
              intro i here there
              obtain ⟨name, matched⟩ := fields.2 i here there
              apply Prod.ext name
              exact inductionHypothesis _ (List.get_mem _ _) (values _ (List.get_mem _ _))
                (values' _ (List.get_mem _ _)) matched

/-- Rigid patterns have no sequences that could stand where the other has a mapping. -/
theorem Rigid.not_crossing {p q : Pattern} (rigid : Rigid p) (rigid' : Rigid q) :
    ¬ Crossing p q := by
  intro crossing
  induction crossing with
  | sequence => exact nomatch rigid
  | mapping => exact nomatch rigid'
  | item => exact nomatch rigid
  | field member member' _ inductionHypothesis =>
      cases rigid with
      | mapping values =>
          cases rigid' with
          | mapping values' => exact inductionHypothesis (values _ member) (values' _ member')

/-- Rigid mappings that tie in the order are equal. -/
theorem Rigid.eq_of_order_eq {fields others : List (String × Json)} (rigid : Rigid (.object fields))
    (rigid' : Rigid (.object others)) (tie : order (.object fields) (.object others) = .eq) :
    Json.object fields = .object others := by
  have keys : key (.object fields) = key (.object others) := Std.LawfulEqOrd.eq_of_compare tie
  rcases eq_or_crossing (indexed_of_key_eq (by simp) (by simp) keys) with equal | crossing
  · exact equal
  · exact absurd crossing (rigid.not_crossing rigid')

/-- Primitives of the same value pass it on if numbers do. -/
theorem samePrimitive_join {a b c : Pattern}
    (joins : ∀ l m n : Number, a = .number l → b = .number m → l.sameValue m = true →
      m.sameValue n = true → l.sameValue n = true)
    (first : samePrimitive a b = true) (second : samePrimitive b c = true) :
    samePrimitive a c = true := by
  cases a with
  | number l =>
      cases b with
      | number m =>
          cases c with
          | number n => exact joins l m n rfl rfl first second
          | _ => exact nomatch second
      | _ => exact nomatch first
  | _ => cases b <;> cases c <;> simp_all [samePrimitive]

theorem samePrimitive_trans {a b c : Pattern} (small : ∀ n, a = .number n → n.Small)
    (first : samePrimitive a b = true) (second : samePrimitive b c = true) :
    samePrimitive a c = true := by
  apply samePrimitive_join _ first second
  intro l m n own _ first second
  apply (Number.sameValue_iff_toDouble (small l own)).mpr
  exact Double.sameValue_trans (Number.sameValue_toDouble first)
    (Number.sameValue_toDouble second)

theorem order_tie {a b : Pattern} (below : (order a b).isLE = true)
    (above : (order b a).isLE = true) : order a b = .eq := by
  rw [order_swap b a] at above
  cases outcome : order a b <;> simp_all [Ordering.isLE]

/-- What stands between two primitives that match, matches them. -/
theorem samePrimitive_between {a b c : Pattern} (small : ∀ n, a = .number n → n.Small)
    (below : (order a b).isLE = true) (above : (order b c).isLE = true)
    (ends : samePrimitive a c = true) : samePrimitive a b = true := by
  have kinds : rank a = rank c := by
    cases a <;> cases c <;> first | rfl | exact nomatch ends
  have kind := rank_between below above kinds
  cases a with
  | null =>
      cases b with
      | null => rfl
      | _ => exact nomatch kind
  | bool x =>
      cases c with
      | bool z =>
          cases b with
          | bool y =>
              rw [← show x = z from beq_iff_eq.mp ends] at above
              exact beq_iff_eq.mpr (Std.LawfulEqOrd.eq_of_compare (order_tie below above))
          | _ => exact nomatch kind
      | _ => exact nomatch kinds
  | number x =>
      cases c with
      | number z =>
          cases b with
          | number y =>
              apply (Number.sameValue_iff_toDouble (small x rfl)).mpr
              exact Double.sameValue_between (Number.place_le_of_isLE below)
                (Number.place_le_of_isLE above) (Number.sameValue_toDouble ends)
          | _ => exact nomatch kind
      | _ => exact nomatch kinds
  | string x =>
      cases c with
      | string z =>
          cases b with
          | string y =>
              rw [← show x = z from beq_iff_eq.mp ends] at above
              exact beq_iff_eq.mpr (Std.LawfulEqOrd.eq_of_compare (order_tie below above))
          | _ => exact nomatch kind
      | _ => exact nomatch kinds
  | array => cases c <;> exact nomatch ends
  | object => cases c <;> exact nomatch ends

/-- A simple pattern of the kind of a mapping is a rigid mapping. -/
theorem Simple.rigid {fields : List (String × Json)} {p : Pattern} (simple : Simple p)
    (kinds : rank p = rank (.object fields)) : Rigid p := by
  cases simple with
  | primitive primitive => exact nomatch isPrimitive_of_rank_eq kinds primitive
  | mapping rigid => exact rigid

/-- Among simple patterns matching and order go together. -/
theorem compatible_simple : Compatible Simple where
  joins := by
    intro a b c simple simple' _ first second
    have kinds := rank_eq_of_meets first
    cases simple with
    | primitive primitive small =>
        have primitive' := isPrimitive_of_rank_eq kinds primitive
        rw [meets_of_isPrimitive primitive] at first ⊢
        rw [meets_of_isPrimitive primitive'] at second
        exact samePrimitive_trans small first second
    | mapping rigid =>
        rw [rigid.eq_of_meets (simple'.rigid kinds.symm) first]
        exact second
  between := by
    intro a b c simple simple' simple'' below above ends
    have kinds := rank_between below above (rank_eq_of_meets ends)
    cases simple with
    | primitive primitive small =>
        rw [meets_of_isPrimitive primitive] at ends ⊢
        exact samePrimitive_between small below above ends
    | mapping rigid =>
        have equal := rigid.eq_of_meets (simple''.rigid (rank_eq_of_meets ends).symm) ends
        rw [← equal] at above
        cases b with
        | object others =>
            rw [rigid.eq_of_order_eq (simple'.rigid kinds) (order_tie below above)]
            exact meets_self (simple'.rigid kinds).sortable
        | _ => exact nomatch kinds

/-! ### Full matches and pairings -/

/-- Sequences that match fully can be paired. Among the patterns of a class the converse holds
exactly if matching patterns that cross in the order can be uncrossed; simple patterns can. Where
the elements of the sequences in the reworded patterns, at every depth, belong to a class that can
be uncrossed, rewording keeps a full match. -/
theorem full_match_and_pairing (T : Pattern → Prop) :
    (∀ hs ms : List Pattern, Meets (.array hs) (.array ms) → Pairing Meets hs ms) ∧
    ((∀ hs ms : List Pattern, (∀ p ∈ hs, T p) → (∀ p ∈ ms, T p) →
      (Meets (.array hs) (.array ms) ↔ Pairing Meets hs ms)) ↔ Uncrossed T) ∧
    Uncrossed Simple ∧
    (Uncrossed T → ∀ h h' m m' : Pattern, Reworded h h' → Reworded m m' →
      (∀ p, ElementOf p h' ∨ ElementOf p m' → T p) → Meets h m → Meets h' m') := by
  refine ⟨fun _ _ => pairing_of_meets, meets_array_iff_pairing T, compatible_simple.uncrossed, ?_⟩
  intro uncrossed h h' m m' left right elements meets
  exact meets_of_alike uncrossed ((alike_of_meets h meets).reworded left right)
    (fun p element => elements p (Or.inl element)) (fun p element => elements p (Or.inr element))

/-- A sequence may be turned round, and its number be written as a double. -/
theorem turned_round_matches :
    Meets (.array [.string "Foo", .string "Bar", .number (.integer 3 (by decide))])
      (.array [.number (.double (Double.ofInt 3)), .string "Bar", .string "Foo"]) := by
  have turned : Reworded (.array [.string "Foo", .string "Bar", .number (.integer 3 (by decide))])
      (.array [.number (.double (Double.ofInt 3)), .string "Bar", .string "Foo"]) := by
    apply UpToOrder.array_iff.mpr
    apply Pairing.of_forall₂_left (List.reverse_perm _)
    exact .cons (.primitive rfl rfl (.asDouble _ (by decide)))
      (.cons (.primitive rfl rfl (.same _)) (.cons (.primitive rfl rfl (.same _)) .nil))
  have number : ∀ {n : Number}, n.Small → Simple (.number n) := by
    intro n small
    refine .primitive rfl ?_
    rintro m ⟨⟩
    exact small
  have three : Simple (.number (.integer 3 (by decide))) :=
    number (Number.small_integer _ (by decide))
  have string : ∀ s, Simple (.string s) := by
    intro s
    exact .primitive rfl fun _ equal => Json.noConfusion equal
  have settled := full_match_and_pairing Simple
  refine settled.2.2.2 settled.2.2.1 _ _ _ _ (Reworded.refl _) turned ?_ (by decide +kernel)
  rintro p (element | element)
  · have member := element.mem_of_isPrimitive (by simp [isPrimitive])
    exact List.forall_mem_cons.mpr ⟨string _, List.forall_mem_cons.mpr ⟨string _,
      by simpa using three⟩⟩ p member
  · have member := element.mem_of_isPrimitive (by simp [isPrimitive])
    exact List.forall_mem_cons.mpr ⟨number (Number.small_double _),
      List.forall_mem_cons.mpr ⟨string _, by simpa using string _⟩⟩ p member

/-- The sequences `[2, 1]` and `[1, 2]` match, and so do `[1, 3]` and `[1, 3]`; but by their texts
`[1, 3]` is the first element on one side and the last one on the other. -/
theorem paired_without_match :
    ¬ ∀ hs ms : List Pattern, Meets (.array hs) (.array ms) ↔ Pairing Meets hs ms := by
  intro equivalent
  let list (i j : Int) : Pattern := .array [.ofInt i, .ofInt j]
  have pairing : Pairing Meets [list 2 1, list 1 3] [list 1 2, list 1 3] := by
    apply Pairing.of_forall₂
    exact .cons (by decide +kernel) (.cons (by decide +kernel) .nil)
  have matched := (equivalent _ _).mpr pairing
  exact absurd matched (by decide +kernel)

end Pattern
end EventDispatch
