import Mathlib.Data.List.FinRange
import Mathlib.Data.List.Perm.Basic
import Mathlib.Logic.Equiv.Fin.Basic
/-!
Pairings of two lists.

Purpose: a pairing is a bijection between the positions of two lists that pairs related elements
only. When both lists are in order and two pairs that cross can always be uncrossed, a pairing
exists exactly if the lists are related position by position: the elements in front can be paired
with each other, since their partners can be paired as well.

Main exports: `Pairing`, `pairing_iff_forall₂`, `Pairing.perm`, `forall₂_of_pairing`.
-/

namespace EventDispatch

open scoped List

variable {α β : Type} {R : α → β → Prop}

/-! ### Lists related position by position -/

/-- An element has a partner in the other list. -/
theorem exists_of_forall₂ {as : List α} {bs : List β}
    (related : List.Forall₂ R as bs) {a : α} (member : a ∈ as) : ∃ b ∈ bs, R a b := by
  induction related with
  | nil => cases member
  | cons pair _ inductionHypothesis =>
      rcases List.mem_cons.mp member with rfl | later
      · exact ⟨_, List.mem_cons_self, pair⟩
      · obtain ⟨b, present, partner⟩ := inductionHypothesis later
        exact ⟨b, List.mem_cons_of_mem _ present, partner⟩

/-- Relations that join at each element of the list in the middle join the lists. -/
theorem forall₂_join {γ : Type} {S : β → γ → Prop} {T : α → γ → Prop}
    {as : List α} {bs : List β} {cs : List γ} (joins : ∀ b ∈ bs, ∀ a c, R a b → S b c → T a c)
    (first : List.Forall₂ R as bs) (second : List.Forall₂ S bs cs) : List.Forall₂ T as cs := by
  induction first generalizing cs with
  | nil =>
      cases second
      exact .nil
  | cons pair _ inductionHypothesis =>
      cases second with
      | cons pair' related' =>
          refine .cons (joins _ List.mem_cons_self _ _ pair pair') ?_
          exact inductionHypothesis (fun b member => joins b (List.mem_cons_of_mem _ member))
            related'

/-- What holds of each related pair of elements relates the lists as well. -/
theorem forall₂_of_mem {S : α → β → Prop} {as : List α} {bs : List β}
    (related : List.Forall₂ R as bs) (passes : ∀ a ∈ as, ∀ b ∈ bs, R a b → S a b) :
    List.Forall₂ S as bs := by
  induction related with
  | nil => exact .nil
  | cons pair _ inductionHypothesis =>
      refine .cons (passes _ List.mem_cons_self _ List.mem_cons_self pair) ?_
      exact inductionHypothesis fun a inA b inB =>
        passes a (List.mem_cons_of_mem _ inA) b (List.mem_cons_of_mem _ inB)

/-! ### Pairings -/

/-- A bijection between the positions of two lists that pairs related elements. -/
def Pairing (R : α → β → Prop) (hs : List α) (ms : List β) : Prop :=
  ∃ σ : Fin hs.length ≃ Fin ms.length, ∀ i, R (hs.get i) (ms.get (σ i))

/-- The positions of a permuted list correspond to those of the list. -/
theorem exists_positions {items others : List α} (permuted : items ~ others) :
    Pairing (· = ·) items others := by
  induction permuted with
  | nil => exact ⟨Equiv.refl _, fun _ => rfl⟩
  | @cons x items others _ inductionHypothesis =>
      obtain ⟨σ, same⟩ := inductionHypothesis
      let τ : Fin (items.length + 1) ≃ Fin (others.length + 1) :=
        (finSuccEquiv items.length).trans (σ.optionCongr.trans (finSuccEquiv others.length).symm)
      have first : τ 0 = 0 := by simp [τ]
      have later : ∀ i, τ i.succ = (σ i).succ := by simp [τ]
      refine ⟨τ, ?_⟩
      intro i
      cases i using Fin.cases with
      | zero => rw [first]; rfl
      | succ i => rw [later]; exact same i
  | swap x y items =>
      refine ⟨Equiv.swap (0 : Fin (items.length + 2)) 1, ?_⟩
      intro i
      cases i using Fin.cases with
      | zero => rw [Equiv.swap_apply_left]; rfl
      | succ i =>
          cases i using Fin.cases with
          | zero => rw [Fin.succ_zero_eq_one, Equiv.swap_apply_right]; rfl
          | succ i =>
              have other : Equiv.swap (0 : Fin (items.length + 2)) 1 i.succ.succ = i.succ.succ :=
                Equiv.swap_apply_of_ne_of_ne (Fin.succ_ne_zero _)
                  (fun same => Fin.succ_ne_zero i (Fin.succ_inj.mp same))
              rw [other]
              rfl
  | trans _ _ first second =>
      obtain ⟨σ, same⟩ := first
      obtain ⟨τ, same'⟩ := second
      exact ⟨σ.trans τ, fun i => (same i).trans (same' (σ i))⟩

/-- A pairing relates one list position by position to a permutation of the other. -/
theorem pairing_iff_forall₂ {hs : List α} {ms : List β} :
    Pairing R hs ms ↔ ∃ others, List.Forall₂ R hs others ∧ others ~ ms := by
  constructor
  · rintro ⟨σ, related⟩
    refine ⟨(List.finRange hs.length).map fun i => ms.get (σ i), ?_, ?_⟩
    · have positions : List.Forall₂ R ((List.finRange hs.length).map hs.get)
          ((List.finRange hs.length).map fun i => ms.get (σ i)) := by
        rw [List.forall₂_map_left_iff, List.forall₂_map_right_iff, List.forall₂_same]
        exact fun i _ => related i
      rwa [List.map_get_finRange] at positions
    · have positions : (List.finRange hs.length).map σ ~ List.finRange ms.length := by
        apply (List.perm_ext_iff_of_nodup ((List.nodup_finRange _).map σ.injective)
          (List.nodup_finRange _)).mpr
        intro j
        simp only [List.mem_map, List.mem_finRange, true_and, iff_true]
        exact σ.surjective j
      have elements := positions.map ms.get
      rwa [List.map_map, List.map_get_finRange] at elements
  · rintro ⟨others, related, permuted⟩
    obtain ⟨length, related⟩ := List.forall₂_iff_get.mp related
    obtain ⟨σ, same⟩ := exists_positions permuted
    refine ⟨(finCongr length).trans σ, ?_⟩
    intro i
    have pair := related i i.isLt (length ▸ i.isLt)
    rw [same] at pair
    exact pair

namespace Pairing

/-- Either list may be permuted instead. -/
theorem forall₂_left {hs : List α} {ms : List β} (pairing : Pairing R hs ms) :
    ∃ others, others ~ hs ∧ List.Forall₂ R others ms := by
  obtain ⟨others, related, permuted⟩ := pairing_iff_forall₂.mp pairing
  have composed : Relation.Comp (List.Forall₂ R) (· ~ ·) hs ms := ⟨others, related, permuted⟩
  rw [List.forall₂_comp_perm_eq_perm_comp_forall₂] at composed
  obtain ⟨rearranged, permuted', related'⟩ := composed
  exact ⟨rearranged, permuted'.symm, related'⟩

theorem of_forall₂_left {hs others : List α} {ms : List β} (permuted : others ~ hs)
    (related : List.Forall₂ R others ms) : Pairing R hs ms := by
  obtain ⟨rearranged, related', permuted'⟩ := List.perm_comp_forall₂ permuted.symm related
  exact pairing_iff_forall₂.mpr ⟨rearranged, related', permuted'⟩

theorem of_forall₂ {hs : List α} {ms : List β} (related : List.Forall₂ R hs ms) :
    Pairing R hs ms :=
  pairing_iff_forall₂.mpr ⟨ms, related, .refl _⟩

/-- Permuting the lists keeps a pairing. -/
theorem perm {hs hs' : List α} {ms ms' : List β} (pairing : Pairing R hs ms) (left : hs ~ hs')
    (right : ms ~ ms') : Pairing R hs' ms' := by
  obtain ⟨others, permuted, related⟩ := pairing.forall₂_left
  obtain ⟨again, related', permuted'⟩ :=
    pairing_iff_forall₂.mp (of_forall₂_left (permuted.trans left) related)
  exact pairing_iff_forall₂.mpr ⟨again, related', permuted'.trans right⟩

/-- What holds of related elements may replace the relation. -/
theorem imp {S : α → β → Prop} {hs : List α} {ms : List β}
    (implies : ∀ h ∈ hs, ∀ m ∈ ms, R h m → S h m) (pairing : Pairing R hs ms) :
    Pairing S hs ms := by
  obtain ⟨σ, related⟩ := pairing
  exact ⟨σ, fun i => implies _ (List.get_mem _ _) _ (List.get_mem _ _) (related i)⟩

end Pairing

/-! ### Uncrossing -/

/-- In lists that are related position by position, the partner of an element may take another
partner, which makes room for the element elsewhere. -/
theorem exchange {hs : List α} {ms : List β} (related : List.Forall₂ R hs ms) {m : β}
    (member : m ∈ ms) : ∃ h ∈ hs, R h m ∧
      ∀ x, R h x → ∃ others, List.Forall₂ R hs others ∧ m :: others ~ x :: ms := by
  induction related with
  | nil => cases member
  | @cons h₀ m₀ hs ms pair related inductionHypothesis =>
      rcases List.mem_cons.mp member with rfl | later
      · refine ⟨h₀, List.mem_cons_self, pair, ?_⟩
        intro x other
        exact ⟨x :: ms, .cons other related, .swap x m ms⟩
      · obtain ⟨h, inHs, own, replace⟩ := inductionHypothesis later
        refine ⟨h, List.mem_cons_of_mem _ inHs, own, ?_⟩
        intro x other
        obtain ⟨others, related', permuted⟩ := replace x other
        refine ⟨m₀ :: others, .cons pair related', ?_⟩
        calc m :: m₀ :: others ~ m₀ :: m :: others := .swap m₀ m others
          _ ~ m₀ :: x :: ms := permuted.cons m₀
          _ ~ x :: m₀ :: ms := .swap x m₀ ms

/-- Lists in order that can be paired off are related position by position, provided that two pairs
that cross can be uncrossed. -/
theorem forall₂_of_pairing {le : α → α → Prop} {le' : β → β → Prop} {hs : List α} {ms : List β}
    (ordered : hs.Pairwise le) (ordered' : ms.Pairwise le')
    (uncrosses : ∀ a ∈ hs, ∀ a' ∈ hs, ∀ b ∈ ms, ∀ b' ∈ ms, le a a' → le' b b' →
      R a b' → R a' b → R a b ∧ R a' b')
    (pairing : Pairing R hs ms) : List.Forall₂ R hs ms := by
  obtain ⟨others, related, permuted⟩ := pairing_iff_forall₂.mp pairing
  clear pairing
  induction hs generalizing ms others with
  | nil =>
      cases related
      rw [List.nil_perm.mp permuted]
      exact .nil
  | cons h hs inductionHypothesis =>
      obtain ⟨x, xs, own, later, rfl⟩ := List.forall₂_cons_left_iff.mp related
      cases ms with
      | nil => exact absurd permuted.length_eq (by simp)
      | cons m ms =>
          obtain ⟨first, ordered⟩ := List.pairwise_cons.mp ordered
          obtain ⟨first', ordered'⟩ := List.pairwise_cons.mp ordered'
          have uncrossesLater : ∀ a ∈ hs, ∀ a' ∈ hs, ∀ b ∈ ms, ∀ b' ∈ ms, le a a' → le' b b' →
              R a b' → R a' b → R a b ∧ R a' b' := fun a inHs a' inHs' b inMs b' inMs' =>
            uncrosses a (List.mem_cons_of_mem _ inHs) a' (List.mem_cons_of_mem _ inHs') b
              (List.mem_cons_of_mem _ inMs) b' (List.mem_cons_of_mem _ inMs')
          have finish : ∀ {ys}, R h m → List.Forall₂ R hs ys → ys ~ ms →
              List.Forall₂ R (h :: hs) (m :: ms) := fun front related permuted =>
            .cons front (inductionHypothesis ordered ordered' uncrossesLater _ related permuted)
          rcases List.mem_cons.mp (permuted.subset List.mem_cons_self) with rfl | inMs
          · exact finish own later permuted.cons_inv
          · rcases List.mem_cons.mp (permuted.mem_iff.mpr List.mem_cons_self) with rfl | inXs
            · exact finish own later permuted.cons_inv
            · -- `h` is paired with `x`, and some later `y` with `m`: uncross the two pairs.
              obtain ⟨y, inHs, pair, replace⟩ := exchange later inXs
              obtain ⟨front, back⟩ := uncrosses h List.mem_cons_self y
                (List.mem_cons_of_mem _ inHs) m List.mem_cons_self x (List.mem_cons_of_mem _ inMs)
                (first y inHs) (first' x inMs) own pair
              obtain ⟨ys, related', permuted'⟩ := replace x back
              exact finish front related' (permuted'.trans permuted).cons_inv

end EventDispatch
