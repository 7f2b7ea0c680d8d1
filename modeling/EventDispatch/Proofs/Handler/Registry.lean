import EventDispatch.Handler.Registry
import EventDispatch.Proofs.Pattern.Matching
/-!
Resolution and handlers.

Purpose: where a message goes depends on keys, patterns, kinds and options only. Other handlers in
the place of the registered ones are selected for the same messages.

Main exports: `Registry.withHandlers`, `Registry.select_withHandlers`,
`Registry.resolve_withHandlers`, `Registry.resolve_of_register`, `Registry.exists_register`.
-/

namespace EventDispatch

namespace Registration

/-- The registration with another handler, which may depend on it. -/
def withHandler (f : Registration → Handler) (r : Registration) : Registration :=
  { r with handler := f r }

end Registration

namespace Resolution

/-- The resolution to the same registration with another handler. -/
def withHandlers (f : Registration → Handler) : Resolution → Resolution
  | .message r => .message (r.withHandler f)
  | .event r => .event (r.withHandler f)
  | .none => .none
  | .crashed => .crashed

theorem ofRegistration_withHandler (f : Registration → Handler) (r : Registration) :
    ofRegistration (r.withHandler f) = (ofRegistration r).withHandlers f := by
  unfold ofRegistration
  have kind : (r.withHandler f).kind = r.kind := rfl
  rw [kind]
  cases r.kind with
  | message => rfl
  | event => rfl

end Resolution

/-! ### Searching with a test that may crash -/

section Search

variable {α : Type} {test : α → Option Bool} {xs : List α} {x : α}

theorem findM?_cons (test : α → Option Bool) (x : α) (xs : List α) :
    (x :: xs).findM? test =
      (test x).bind fun passes => if passes then some (some x) else xs.findM? test := by
  rw [List.findM?]
  cases test x with
  | none => rfl
  | some passes => cases passes <;> rfl

/-- What a search finds stands in the list and passes the test. -/
theorem of_findM?_eq_some (found : xs.findM? test = some (some x)) :
    x ∈ xs ∧ test x = some true := by
  induction xs with
  | nil => cases found
  | cons y xs inductionHypothesis =>
      rw [findM?_cons] at found
      cases outcome : test y with
      | none => simp [outcome] at found
      | some passes =>
          rw [outcome] at found
          cases passes with
          | false =>
              obtain ⟨member, passes⟩ := inductionHypothesis found
              exact ⟨List.mem_cons_of_mem y member, passes⟩
          | true =>
              cases found
              exact ⟨List.mem_cons_self, outcome⟩

/-- A search ends where no test crashes. -/
theorem exists_findM? (ends : ∀ x ∈ xs, ∃ passes, test x = some passes) :
    ∃ found, xs.findM? test = some found := by
  induction xs with
  | nil => exact ⟨none, rfl⟩
  | cons x xs inductionHypothesis =>
      obtain ⟨⟨passes, here⟩, others⟩ := List.forall_mem_cons.mp ends
      rw [findM?_cons, here]
      cases passes with
      | false => exact inductionHypothesis others
      | true => exact ⟨some x, rfl⟩

/-- A search passes over what the test does not look at. -/
theorem findM?_map {f : α → α} (same : ∀ x, test (f x) = test x) :
    (xs.map f).findM? test = (xs.findM? test).map (Option.map f) := by
  induction xs with
  | nil => rfl
  | cons x xs inductionHypothesis =>
      rw [List.map_cons, findM?_cons, findM?_cons, same, inductionHypothesis]
      cases test x with
      | none => rfl
      | some passes => cases passes <;> rfl

end Search

namespace Registry

/-- The registry with other handlers in the places of the registered ones. -/
def withHandlers (g : Registry) (f : Registration → Handler) : Registry :=
  { g with registrations := g.registrations.map (Registration.withHandler f) }

variable {g : Registry}

/-- The selection passes over the handlers. -/
theorem select_withHandlers (g : Registry) (f : Registration → Handler) (message : Pattern) :
    (g.withHandlers f).select message
      = (g.select message).map (Option.map (Registration.withHandler f)) := by
  have through : ∀ position : Option Nat,
      position.bind ((g.withHandlers f).registrations[·]?)
        = (position.bind (g.registrations[·]?)).map (Registration.withHandler f) := by
    intro position
    cases position with
    | none => rfl
    | some n => exact Array.getElem?_map
  have matching : (g.withHandlers f).toList.findM? (Registration.accepts · message)
      = (g.toList.findM? (Registration.accepts · message)).map
          (Option.map (Registration.withHandler f)) := by
    have listed : (g.withHandlers f).toList = g.toList.map (Registration.withHandler f) :=
      Array.toList_map
    have same : ∀ r : Registration, (r.withHandler f).accepts message = r.accepts message :=
      fun _ => rfl
    rw [listed, findM?_map same]
  unfold select
  rw [through, through, matching]
  have index : (g.withHandlers f).index = g.index := rfl
  have catchAll : (g.withHandlers f).catchAll = g.catchAll := rfl
  rw [index, catchAll]
  cases (g.index[message.key]?).bind (g.registrations[·]?) with
  | some r => rfl
  | none =>
      cases g.toList.findM? (Registration.accepts · message) with
      | none => rfl
      | some found => exact congrArg some Option.map_or.symm

theorem resolve_withHandlers (g : Registry) (f : Registration → Handler) (message : Pattern) :
    (g.withHandlers f).resolve message = (g.resolve message).withHandlers f := by
  unfold resolve
  rw [select_withHandlers]
  cases g.select message with
  | none => rfl
  | some selected =>
      cases selected with
      | none => rfl
      | some r => exact Resolution.ofRegistration_withHandler f r

/-- Where all sequences can be sorted, no match crashes on the way to a handler. -/
theorem resolve_ne_crashed {message : Pattern}
    (registered : ∀ r ∈ g.toList, Pattern.Sortable r.pattern)
    (requested : Pattern.Sortable message) : g.resolve message ≠ .crashed := by
  have ends : ∀ r ∈ g.toList, ∃ passes, r.accepts message = some passes := by
    intro r member
    unfold Registration.accepts
    cases r.extras.partialMatch with
    | false => exact Pattern.exists_matchFully (registered r member) requested
    | true => exact Pattern.exists_matchPartially (registered r member) message
  obtain ⟨found, search⟩ := exists_findM? ends
  have selected : ∃ r, g.select message = some r := by
    unfold select
    rw [search]
    split
    · exact ⟨_, rfl⟩
    · exact ⟨_, rfl⟩
  obtain ⟨r, selected⟩ := selected
  unfold resolve Resolution.ofRegistration
  rw [selected]
  cases r with
  | none => simp
  | some r => cases kind : r.kind <;> simp [kind]

/-- A message with the key of the registration that was added last goes to it. -/
theorem resolve_of_add {g' : Registry} {r : Registration} (added : g.add r = .ok g')
    {message : Pattern} (key : message.key = r.key) :
    g'.resolve message = .ofRegistration r := by
  unfold add at added
  split at added
  · exact absurd added (by simp)
  · cases added
    simp [resolve, select, key]

/-- A pattern that was registered last resolves to its registration. -/
theorem resolve_of_register {g' : Registry} {pattern : Pattern} {handler : Handler}
    {kind : HandlerKind} {extras : Extras}
    (registered : g.register pattern handler kind extras = .ok g') :
    g'.resolve pattern = .ofRegistration (.make pattern handler kind extras) :=
  resolve_of_add registered rfl

/-- A message goes to registrations of the registry only. -/
theorem mem_of_resolve {message : Pattern} {r : Registration}
    (taken : g.resolve message = .message r) : r ∈ g.toList := by
  have place : ∀ {n : Nat}, g.registrations[n]? = some r → r ∈ g.toList := by
    intro n found
    exact Array.mem_toList_iff.mpr (Array.mem_of_getElem? found)
  have selected : g.select message = some (some r) := by
    unfold resolve Resolution.ofRegistration at taken
    split at taken
    · split at taken <;> cases taken
      assumption
    · cases taken
    · cases taken
  unfold select at selected
  split at selected
  · rename_i found
    cases selected
    obtain ⟨n, -, here⟩ := Option.bind_eq_some_iff.mp found
    exact place here
  · simp only [Option.bind_eq_bind, Option.bind_eq_some_iff, Option.pure_def, Option.some.injEq]
      at selected
    obtain ⟨matching, search, selected⟩ := selected
    rcases Option.or_eq_some_iff.mp selected with rfl | ⟨rfl, fallback⟩
    · exact (of_findM?_eq_some search).1
    · obtain ⟨n, -, here⟩ := Option.bind_eq_some_iff.mp fallback
      exact place here

theorem toList_of_register {g' : Registry} {pattern : Pattern} {handler : Handler}
    {kind : HandlerKind} {extras : Extras}
    (registered : g.register pattern handler kind extras = .ok g') :
    g'.toList = g.toList ++ [.make pattern handler kind extras] := by
  unfold register add at registered
  split at registered
  · exact absurd registered (by simp)
  · cases registered
    simp [toList]

/-- A pattern whose key is free can be registered. -/
theorem exists_register {pattern : Pattern} (free : g.contains pattern = false)
    (handler : Handler) (kind : HandlerKind) (extras : Extras) :
    ∃ g', g.register pattern handler kind extras = .ok g' := by
  unfold contains at free
  simp [register, add, Registration.make, free]

theorem contains_empty (pattern : Pattern) : empty.contains pattern = false := by
  simp [contains, containsKey, empty]

end Registry
end EventDispatch
