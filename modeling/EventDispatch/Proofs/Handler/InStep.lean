import EventDispatch.Proofs.Handler.Scan
/-!
The registry and the list of its registrations.

Purpose: the index over the keys, the position of the catch-all registration and the answers about
what is registered all say the same as the list of registrations. They stay in step however often,
in which order and with what success handlers are registered. A call is refused for its key alone,
and a refused call changes nothing.

Main exports: `Registry.InStep`, `Registry.Indexed.inStep`, `Registry.register_cases`,
`Registry.registry_in_step`.
-/

namespace EventDispatch.Registry

/-- All that a registry keeps and tells agrees with a list of registrations. -/
structure InStep (g : Registry) (rs : List Registration) : Prop where
  /-- The registrations are those of the list, in its order. -/
  listed : g.toList = rs
  size : g.size = rs.length
  isEmpty : g.isEmpty = true ↔ rs = []
  /-- A registration carries the key of its pattern. -/
  key : ∀ r ∈ rs, r.key = r.pattern.key
  /-- No key occurs twice. -/
  distinct : (rs.map (·.key)).Nodup
  /-- The index holds the key of each registration with its position, and nothing else. -/
  index : ∀ (key : String) (n : Nat),
    g.index[key]? = some n ↔ (rs[n]?).map (·.key) = some key
  /-- The remembered position is that of the registration for the catch-all pattern. -/
  catchAll : ∀ n : Nat, g.catchAll = some n ↔ (rs[n]?).map (·.pattern) = some .catchAll
  /-- Without such a registration no position is remembered. -/
  noCatchAll : g.catchAll = none ↔ ∀ r ∈ rs, r.pattern ≠ .catchAll
  /-- A pattern is contained if a registration has its key. -/
  contains : ∀ p : Pattern, g.contains p = true ↔ p.key ∈ rs.map (·.key)

theorem Indexed.map_key {g : Registry} (indexed : g.Indexed) :
    g.toList.map (·.key) = g.toList.map (·.pattern.key) :=
  List.map_congr_left indexed.key

/-- A registry whose index and remembered position are right is in step with its list. -/
theorem Indexed.inStep {g : Registry} (indexed : g.Indexed) : g.InStep g.toList where
  listed := rfl
  size := Array.length_toList.symm
  isEmpty := by simp [Registry.isEmpty, toList]
  key := indexed.key
  distinct := by
    rw [indexed.map_key]
    exact indexed.nodup_keys
  index := by
    intro key n
    rw [indexed.index, Option.map_eq_some_iff]
  catchAll := by
    intro n
    rw [indexed.catchAll, Option.map_eq_some_iff]
    simp only [Pattern.isCatchAll_iff]
  noCatchAll := by
    constructor
    · intro nowhere r member fallback
      obtain ⟨n, place⟩ := List.getElem?_of_mem member
      have somewhere := (indexed.catchAll n).mpr ⟨r, place, Pattern.isCatchAll_iff.mpr fallback⟩
      rw [nowhere] at somewhere
      exact absurd somewhere (by simp)
    · intro absent
      apply Option.eq_none_iff_forall_ne_some.mpr
      intro n somewhere
      obtain ⟨r, place, fallback⟩ := (indexed.catchAll n).mp somewhere
      exact absent r (List.mem_of_getElem? place) (Pattern.isCatchAll_iff.mp fallback)
  contains := by
    intro p
    rw [indexed.contains_iff, indexed.map_key]

/-- A registration is refused with its own key if that key is taken; else it goes to the end. -/
theorem register_cases (g : Registry) (pattern : Pattern) (handler : Handler) (kind : HandlerKind)
    (extras : Extras) :
    (g.contains pattern = true ∧
      g.register pattern handler kind extras = .error (.duplicate pattern.key)) ∨
    (g.contains pattern = false ∧ ∃ g', g.register pattern handler kind extras = .ok g' ∧
      g'.toList = g.toList ++ [.make pattern handler kind extras]) := by
  cases known : g.contains pattern with
  | true => exact Or.inl ⟨rfl, register_of_contains known handler kind extras⟩
  | false =>
      obtain ⟨g', registered⟩ := exists_register known handler kind extras
      exact Or.inr ⟨rfl, g', registered, toList_of_register registered⟩

theorem ofEnrolments_concat (es : List Enrolment) (e : Enrolment) :
    ofEnrolments (es ++ [e]) = (ofEnrolments es).enrol e := by
  simp [ofEnrolments]

/-- However handlers were registered, the registry is in step with the list of those that
succeeded. The next call is refused exactly if its key is the key of one of them, whatever its
handler, kind and options; it is refused as a duplicate of its own key and changes nothing. A call
that is not refused adds its registration at the end. -/
theorem registry_in_step (es : List Enrolment) :
    (ofEnrolments es).InStep (successes es) ∧
    ∀ (pattern : Pattern) (handler : Handler) (kind : HandlerKind) (extras : Extras),
      (∀ error, (ofEnrolments es).register pattern handler kind extras = .error error ↔
        error = .duplicate pattern.key ∧ pattern.key ∈ (successes es).map (·.key)) ∧
      (pattern.key ∈ (successes es).map (·.key) →
        ofEnrolments (es ++ [⟨pattern, handler, kind, extras⟩]) = ofEnrolments es) ∧
      (pattern.key ∉ (successes es).map (·.key) →
        (ofEnrolments (es ++ [⟨pattern, handler, kind, extras⟩])).InStep
          (successes es ++ [.make pattern handler kind extras])) := by
  have inStep : (ofEnrolments es).InStep (successes es) := by
    rw [← toList_ofEnrolments]
    exact (indexed_ofEnrolments es).inStep
  refine ⟨inStep, ?_⟩
  intro pattern handler kind extras
  have after : ofEnrolments (es ++ [⟨pattern, handler, kind, extras⟩])
      = (ofEnrolments es).enrol ⟨pattern, handler, kind, extras⟩ := ofEnrolments_concat es _
  have indexedAfter := indexed_ofEnrolments (es ++ [⟨pattern, handler, kind, extras⟩])
  rw [← inStep.contains]
  rcases register_cases (ofEnrolments es) pattern handler kind extras with
    ⟨taken, refused⟩ | ⟨free, g', registered, longer⟩
  · refine ⟨?_, ?_, ?_⟩
    · intro error
      simp [refused, taken, eq_comm]
    · intro _
      rw [after, enrol, refused]
    · intro free
      exact absurd taken free
  · refine ⟨?_, ?_, ?_⟩
    · intro error
      simp [registered, free]
    · intro taken
      rw [free] at taken
      exact absurd taken (by simp)
    · intro _
      have grown : (ofEnrolments (es ++ [⟨pattern, handler, kind, extras⟩])).toList
          = successes es ++ [.make pattern handler kind extras] := by
        rw [after, enrol, registered, longer, inStep.listed]
      rw [← grown]
      exact indexedAfter.inStep

/-- A handler for the number one. -/
def one : Enrolment := ⟨Json.ofInt 1, fun _ => .endless, .message, {}⟩

/-- A string with the text of the number is refused, as an event handler too; another is not. -/
theorem text_of_number_refused :
    (ofEnrolments [one]).register (.string "1") one.handler .event ⟨true⟩
        = .error (.duplicate "1") ∧
      ofEnrolments ([one] ++ [⟨.string "1", one.handler, .event, ⟨true⟩⟩]) = ofEnrolments [one] ∧
      (ofEnrolments ([one] ++ [⟨.string "2", one.handler, .event, ⟨true⟩⟩])).InStep
        (successes [one] ++ [.make (.string "2") one.handler .event ⟨true⟩]) := by
  have keys : (successes [one]).map (·.key) = ["1"] := by decide
  have taken : Pattern.key (.string "1") ∈ (successes [one]).map (·.key) := by
    rw [keys]
    decide
  have free : Pattern.key (.string "2") ∉ (successes [one]).map (·.key) := by
    rw [keys]
    decide
  obtain ⟨refused, unchanged, _⟩ :=
    (registry_in_step [one]).2 (.string "1") one.handler .event ⟨true⟩
  obtain ⟨_, _, added⟩ := (registry_in_step [one]).2 (.string "2") one.handler .event ⟨true⟩
  exact ⟨(refused _).mpr ⟨rfl, taken⟩, unchanged taken, added free⟩

end EventDispatch.Registry
