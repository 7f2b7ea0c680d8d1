import EventDispatch.Handler.Group
import EventDispatch.Proofs.Pattern.Containment
/-!
Registrations under the partial rule.

Purpose: a registration, or the default of a group, can be switched to the partial rule of matching.
A message that qualified before still qualifies: a full match is a partial one, and an entry of a
group that has options of its own does not notice the default.

Main exports: `Registration.partially`, `Group.partially`, `Registration.accepts_partially`,
`Group.forall₂_partially`, `Pattern.full_match_is_partial`.
-/

namespace EventDispatch

/-- The registration under the partial rule of matching. -/
def Registration.partially (r : Registration) : Registration :=
  { r with extras := { r.extras with partialMatch := true } }

/-- The group with the partial rule of matching as its default. -/
def Group.partially (group : Group) : Group := { group with partialMatch := true }

/-- A registration accepts what it accepted before it was switched to the partial rule. -/
theorem Registration.accepts_partially {r : Registration} {message : Pattern}
    (formed : message.WellFormed) (accepts : r.accepts message = some true) :
    r.partially.accepts message = some true := by
  unfold Registration.accepts at accepts ⊢
  cases rule : r.extras.partialMatch with
  | true =>
      rw [rule] at accepts
      exact accepts
  | false =>
      rw [rule] at accepts
      exact Pattern.partially_of_meets formed accepts

/-- With the partial rule as default the registrations of a group are the same but for those without
options of their own, which are switched. -/
theorem Group.forall₂_partially (group : Group) :
    List.Forall₂ (fun r r' => r' = r ∨ r' = r.partially) group.registrations
      group.partially.registrations := by
  unfold Group.registrations
  rw [List.forall₂_map_left_iff, List.forall₂_map_right_iff]
  refine List.forall₂_same.mpr ?_
  intro e _
  cases own : e.extras with
  | none => exact Or.inr rfl
  | some extras => exact Or.inl rfl

/-- A message that matches a pattern fully matches it partially. So whatever qualifies for a
registration still does after the registration, or the default of its group, is switched to the
partial rule. -/
theorem Pattern.full_match_is_partial {message : Pattern} (formed : message.WellFormed) :
    (∀ h : Pattern, matchesMessage false h message = some true →
      matchesMessage true h message = some true) ∧
    (∀ r : Registration, r.accepts message = some true → r.partially.accepts message = some true) ∧
    ∀ group : Group,
      List.Forall₂ (fun r r' => r'.pattern = r.pattern ∧
          (r.accepts message = some true → r'.accepts message = some true))
        group.registrations group.partially.registrations := by
  refine ⟨fun h => partially_of_meets formed, fun r => Registration.accepts_partially formed, ?_⟩
  intro group
  refine group.forall₂_partially.imp ?_
  rintro r _ (rfl | rfl)
  · exact ⟨rfl, id⟩
  · exact ⟨rfl, Registration.accepts_partially formed⟩

/-- The elements of both sequences come in different orders, below a name and in an element. -/
theorem Pattern.reordered_message_held :
    Meets (.object [("k", .array [.ofInt 1, .object [("l", .array [.null, .string "a"])]])])
        (.object [("k", .array [.object [("l", .array [.string "a", .null])], .ofInt 1])]) ∧
      matchesMessage true
        (.object [("k", .array [.ofInt 1, .object [("l", .array [.null, .string "a"])]])])
        (.object [("k", .array [.object [("l", .array [.string "a", .null])], .ofInt 1])])
          = some true := by
  have formed : Json.WellFormed
      (.object [("k", .array [.object [("l", .array [.string "a", .null])], .ofInt 1])]) := by
    simp [Json.WellFormed, Json.WellFormedFields, Json.WellFormedItems, Fields.Sorted,
      Fields.names, Json.ofInt]
  have meets : Meets
      (.object [("k", .array [.ofInt 1, .object [("l", .array [.null, .string "a"])]])])
      (.object [("k", .array [.object [("l", .array [.string "a", .null])], .ofInt 1])]) := by
    decide +kernel
  exact ⟨meets, (full_match_is_partial formed).1 _ meets⟩

end EventDispatch
