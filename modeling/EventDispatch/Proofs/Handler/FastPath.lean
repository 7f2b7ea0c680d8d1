import EventDispatch.Proofs.Handler.Scan
import EventDispatch.Proofs.Pattern.Crossing
/-!
Direct look-up against matching.

Purpose: a message that goes to a registration matches its pattern, except that a registration found
under the message's key may spell a sequence of the message as a mapping from positions, or the
other way round. Where neither has a string for a pattern, that is the only way in which the two
notions part.

Main exports: `Registry.scan_cases`, `Registry.accepts_unless_crossing`.
-/

namespace EventDispatch.Registry

/-- Why a scan selects a registration. -/
theorem scan_cases {rs : List Registration} {message : Pattern} {r : Registration}
    (selected : scan rs message = some (some r)) :
    r ∈ rs ∧ (r.pattern.key = message.key ∨ r.accepts message = some true ∨
      r.pattern = .catchAll) := by
  unfold scan at selected
  split at selected
  · rename_i byKey
    cases selected
    have passes := List.find?_some byKey
    exact ⟨List.mem_of_find?_eq_some byKey, Or.inl (beq_iff_eq.mp passes)⟩
  · obtain ⟨matching, search, selected⟩ := Option.map_eq_some_iff.mp selected
    rcases Option.or_eq_some_iff.mp selected with rfl | ⟨_, fallback⟩
    · obtain ⟨member, accepts⟩ := of_findM?_eq_some search
      exact ⟨member, Or.inr (Or.inl accepts)⟩
    · have passes := List.find?_some fallback
      exact ⟨List.mem_of_find?_eq_some fallback,
        Or.inr (Or.inr (Pattern.isCatchAll_iff.mp passes))⟩

theorem resolve_eq_ofRegistration_iff {g : Registry} {message : Pattern} {r : Registration} :
    g.resolve message = .ofRegistration r ↔ g.select message = some (some r) := by
  have distinct : Resolution.ofRegistration r ≠ .none ∧ Resolution.ofRegistration r ≠ .crashed := by
    unfold Resolution.ofRegistration
    cases r.kind <;> exact ⟨Resolution.noConfusion, Resolution.noConfusion⟩
  unfold resolve
  constructor
  · intro resolved
    split at resolved
    · rename_i q _
      have same : q = r := by
        unfold Resolution.ofRegistration at resolved
        split at resolved <;> split at resolved <;> cases resolved <;> rfl
      rwa [← same]
    · exact absurd resolved.symm distinct.1
    · exact absurd resolved.symm distinct.2
  · intro selected
    rw [selected]

/-! ### A sequence and the mapping that spells it out -/

/-- A handler for the sequence of one letter. -/
def letter : Enrolment := ⟨.array [.string "a"], fun _ => .replied .null, .message, {}⟩

/-- The mapping that has the letter under its position. -/
def spelledLetter : Pattern := .object [("0", .string "a")]

theorem key_letter : letter.pattern.key = spelledLetter.key := by
  rw [Pattern.key_of_not_string (by simp [letter]),
    Pattern.key_of_not_string (by simp [spelledLetter])]
  rfl

theorem toList_letter : (ofEnrolments [letter]).toList = [letter.registration] := by
  rw [toList_ofEnrolments]
  rfl

theorem resolve_letter :
    (ofEnrolments [letter]).resolve spelledLetter = .ofRegistration letter.registration := by
  rw [resolve_eq_ofRegistration_iff, (indexed_ofEnrolments _).select_eq_scan, toList_letter]
  have key : letter.registration.pattern.key = spelledLetter.key := key_letter
  simp [scan, key]

theorem letter_formed (q : Registration) (member : q ∈ (ofEnrolments [letter]).toList) :
    q.pattern.WellFormed := by
  rw [toList_letter, List.mem_singleton] at member
  rw [member]
  exact ⟨trivial, trivial⟩

theorem letter_composed (q : Registration) (member : q ∈ (ofEnrolments [letter]).toList)
    (s : String) : q.pattern ≠ .string s := by
  rw [toList_letter, List.mem_singleton] at member
  rw [member]
  exact fun same => nomatch same

theorem spelledLetter_composed (s : String) : spelledLetter ≠ .string s :=
  fun same => nomatch same

/-! ### What a registration takes -/

/-- Where no pattern is a string, a message goes to a registration that accepts it, unless matching
the two crashes, or to one with the message's key whose pattern is spelled differently: somewhere
one has a sequence and the other the mapping from its positions. So a handler with a sequence under
names is selected for a message with a mapping there, or the other way round, only if the mapping
spells out the sequence. -/
theorem accepts_unless_crossing (es : List Enrolment) (message : Pattern) (r : Registration)
    (formed : ∀ q ∈ (ofEnrolments es).toList, q.pattern.WellFormed)
    (composed : ∀ q ∈ (ofEnrolments es).toList, ∀ s, q.pattern ≠ .string s)
    (composed' : ∀ s, message ≠ .string s)
    (resolved : (ofEnrolments es).resolve message = .ofRegistration r) :
    (r.accepts message = some true ∨
      (r.accepts message = none ∧ ¬ Pattern.Sortable r.pattern) ∨
      r.pattern.key = message.key ∧ Pattern.Crossing r.pattern message) ∧
    ∀ way a b, Pattern.under way r.pattern = some a → Pattern.under way message = some b →
      Pattern.shapesDiffer a b = true →
        r.pattern.key = message.key ∧ Pattern.indexed a = Pattern.indexed b := by
  have scanned : scan (ofEnrolments es).toList message = some (some r) := by
    rw [← (indexed_ofEnrolments es).select_eq_scan]
    exact resolve_eq_ofRegistration_iff.mp resolved
  obtain ⟨member, why⟩ := scan_cases scanned
  have keyOrAccepts : r.pattern.key = message.key ∨ r.accepts message = some true := by
    rcases why with key | accepts | fallback
    · exact Or.inl key
    · exact Or.inr accepts
    · exact absurd fallback (composed r member "*")
  constructor
  · rcases keyOrAccepts with key | accepts
    · have same := Pattern.indexed_of_key_eq (composed r member) composed' key
      rcases Pattern.eq_or_crossing same with equal | crossing
      · rw [Registration.accepts, ← equal]
        rcases Pattern.matchesMessage_self r.extras.partialMatch (formed r member) with
          matched | crashed
        · exact Or.inl matched
        · exact Or.inr (Or.inl crashed)
      · exact Or.inr (Or.inr ⟨key, crossing⟩)
    · exact Or.inl accepts
  · intro way a b reached reached' differ
    rcases keyOrAccepts with key | accepts
    · have same := Pattern.indexed_of_key_eq (composed r member) composed' key
      exact ⟨key, Pattern.indexed_under same reached reached'⟩
    · have sameShape := Pattern.sameShape_of_matchesMessage accepts reached reached'
      rw [sameShape] at differ
      exact absurd differ (by simp)

/-- The handler for the sequence takes the mapping, which does not match it. -/
theorem letter_taken_unmatched :
    (∀ q ∈ (ofEnrolments [letter]).toList, q.pattern.WellFormed ∧ ∀ s, q.pattern ≠ .string s) ∧
    (∀ s, spelledLetter ≠ .string s) ∧
    (ofEnrolments [letter]).resolve spelledLetter = .ofRegistration letter.registration ∧
    letter.registration.accepts spelledLetter = some false ∧
    Pattern.shapesDiffer letter.registration.pattern spelledLetter = true :=
  ⟨fun q member => ⟨letter_formed q member, letter_composed q member⟩, spelledLetter_composed,
    resolve_letter, rfl, rfl⟩

/-- It takes the mapping because the two cross at the top. -/
theorem letter_crosses :
    Pattern.Crossing letter.registration.pattern spelledLetter ∧
      Pattern.indexed letter.registration.pattern = Pattern.indexed spelledLetter := by
  obtain ⟨takenFor, alike⟩ := accepts_unless_crossing [letter] spelledLetter letter.registration
    letter_formed letter_composed spelledLetter_composed resolve_letter
  constructor
  · rcases takenFor with accepts | ⟨crashed, _⟩ | ⟨_, crossing⟩
    · cases accepts
    · cases crashed
    · exact crossing
  · exact (alike [] _ _ rfl rfl rfl).2

end EventDispatch.Registry
