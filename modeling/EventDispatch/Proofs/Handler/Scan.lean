import EventDispatch.Proofs.Handler.Registry
/-!
Resolution as a scan of the registrations.

Purpose: a registry that has been asked to register handlers, with or without success, holds the
successful registrations in order. Where a message goes can be read off this list: to the
registration with the message's key, else to the first one that accepts the message, else to that of
the catch-all pattern. The index and the remembered position only find these registrations faster.

Main exports: `Enrolment`, `Registry.ofEnrolments`, `Registry.successes`, `Registry.scan`,
`Registry.Indexed`, `Registry.indexed_ofEnrolments`, `Registry.resolve_scans_successes`.
-/

namespace EventDispatch

/-- A handler that a registry is asked to register. -/
structure Enrolment where
  pattern : Pattern
  handler : Handler
  kind : HandlerKind
  extras : Extras

/-- The registration that an enrolment becomes. -/
def Enrolment.registration (e : Enrolment) : Registration :=
  .make e.pattern e.handler e.kind e.extras

theorem Pattern.isCatchAll_iff {p : Pattern} : p.isCatchAll = true ↔ p = .catchAll := by
  unfold isCatchAll catchAll
  cases p <;> simp

/-- Where a message goes that selects a registration, or none, unless the selection crashes. -/
def Resolution.ofSelected : Option (Option Registration) → Resolution
  | some (some r) => .ofRegistration r
  | some Option.none => .none
  | Option.none => .crashed

namespace Registry

/-- The registry after an enrolment, which stays as it was if the enrolment fails. -/
def enrol (g : Registry) (e : Enrolment) : Registry :=
  match g.register e.pattern e.handler e.kind e.extras with
  | .ok g' => g'
  | .error _ => g

/-- The registry after enrolments in order, from the empty one. -/
def ofEnrolments (es : List Enrolment) : Registry := es.foldl enrol empty

/-- The registrations that succeed: an enrolment fails if an earlier success has its key. -/
def successes (es : List Enrolment) : List Registration :=
  es.foldl (fun rs e =>
    if rs.any (·.pattern.key == e.pattern.key) then rs else rs ++ [e.registration]) []

/-- The registration that a scan of a list selects for a message, if there is one, unless a match
crashes before it is found. -/
def scan (rs : List Registration) (message : Pattern) : Option (Option Registration) :=
  match rs.find? (·.pattern.key == message.key) with
  | some r => some (some r)
  | none =>
    (rs.findM? (Registration.accepts · message)).map (·.or (rs.find? (·.pattern.isCatchAll)))

/-- The index and the position of the catch-all registration say where registrations stand. -/
structure Indexed (g : Registry) : Prop where
  /-- A registration carries the key of its pattern. -/
  key : ∀ r ∈ g.toList, r.key = r.pattern.key
  /-- The index holds the keys with the positions of their registrations, and nothing else. -/
  index : ∀ (key : String) (n : Nat),
    g.index[key]? = some n ↔ ∃ r, g.toList[n]? = some r ∧ r.key = key
  /-- The remembered position is that of the registration of the catch-all pattern. -/
  catchAll : ∀ n : Nat,
    g.catchAll = some n ↔ ∃ r, g.toList[n]? = some r ∧ r.pattern.isCatchAll = true

namespace Indexed

variable {g : Registry}

theorem start : Indexed empty where
  key := by simp [toList, empty]
  index := by simp [toList, empty]
  catchAll := by simp [toList, empty]

/-- A key stands at one position only. -/
theorem unique (indexed : g.Indexed) {m n : Nat} {r q : Registration}
    (first : g.toList[m]? = some r) (second : g.toList[n]? = some q) (same : r.key = q.key) :
    m = n := by
  have here := (indexed.index r.key m).mpr ⟨r, first, rfl⟩
  have there := (indexed.index r.key n).mpr ⟨q, second, same.symm⟩
  exact Option.some.inj (here.symm.trans there)

theorem containsKey_iff (indexed : g.Indexed) {key : String} :
    g.containsKey key = true ↔ ∃ r ∈ g.toList, r.key = key := by
  rw [containsKey, Std.HashMap.contains_eq_isSome_getElem?, Option.isSome_iff_exists]
  constructor
  · rintro ⟨n, found⟩
    obtain ⟨r, place, same⟩ := (indexed.index key n).mp found
    exact ⟨r, List.mem_of_getElem? place, same⟩
  · rintro ⟨r, member, same⟩
    obtain ⟨n, place⟩ := List.getElem?_of_mem member
    exact ⟨n, (indexed.index key n).mpr ⟨r, place, same⟩⟩

/-- The entries of a list with one more at its end. -/
private theorem exists_getElem?_concat {rs : List Registration} {r : Registration} {n : Nat}
    {P : Registration → Prop} :
    (∃ q, (rs ++ [r])[n]? = some q ∧ P q) ↔
      (∃ q, rs[n]? = some q ∧ P q) ∨ (n = rs.length ∧ P r) := by
  rcases Nat.lt_trichotomy n rs.length with below | same | above
  · rw [List.getElem?_append_left below]
    simp [Nat.ne_of_lt below]
  · subst same
    simp
  · rw [List.getElem?_eq_none (by simp; omega), List.getElem?_eq_none (by omega)]
    simp [Nat.ne_of_gt above]

/-- Where only the last entry will do, its position is the one to know. -/
private theorem position_iff_last {older holds : Prop} {m n : Nat} (absent : ¬ older)
    (last : holds) : some m = some n ↔ older ∨ (n = m ∧ holds) := by
  simp [absent, last, eq_comm]

/-- No registration has a key that is free. -/
theorem ne_of_free (indexed : g.Indexed) {key : String} (free : g.containsKey key = false)
    {q : Registration} (member : q ∈ g.toList) : q.key ≠ key := by
  intro same
  rw [indexed.containsKey_iff.mpr ⟨q, member, same⟩] at free
  exact absurd free (by simp)

/-- A new registration goes to the end, under its key. -/
theorem add (indexed : g.Indexed) {g' : Registry} {r : Registration}
    (own : r.key = r.pattern.key) (added : g.add r = .ok g') : g'.Indexed := by
  unfold Registry.add at added
  split at added
  · exact absurd added (by simp)
  rename_i free
  simp only [Bool.not_eq_true] at free
  cases added
  constructor
  · intro q member
    simp only [toList, Array.toList_push, List.mem_append, List.mem_singleton] at member
    rcases member with older | rfl
    · exact indexed.key q older
    · exact own
  · intro key n
    simp only [toList, Array.toList_push, exists_getElem?_concat, Array.length_toList,
      Std.HashMap.getElem?_insert, beq_iff_eq]
    by_cases same : r.key = key
    · rw [if_pos same]
      apply position_iff_last _ same
      rintro ⟨q, place, keyEq⟩
      exact indexed.ne_of_free free (List.mem_of_getElem? place) (keyEq.trans same.symm)
    · rw [if_neg same]
      have before := indexed.index key n
      simp only [toList] at before
      simpa [same] using before
  · intro n
    simp only [toList, Array.toList_push, exists_getElem?_concat, Array.length_toList]
    by_cases fallback : r.pattern.isCatchAll = true
    · rw [if_pos fallback]
      apply position_iff_last _ fallback
      -- An earlier registration of the catch-all pattern would have the key of the new one.
      rintro ⟨q, place, also⟩
      have member := List.mem_of_getElem? place
      apply indexed.ne_of_free free member
      rw [indexed.key q member, own, Pattern.isCatchAll_iff.mp also,
        Pattern.isCatchAll_iff.mp fallback]
    · rw [if_neg fallback]
      have before := indexed.catchAll n
      simp only [toList] at before
      simpa [fallback] using before

theorem enrol (indexed : g.Indexed) (e : Enrolment) : (g.enrol e).Indexed := by
  unfold Registry.enrol register
  split
  · rename_i added
    exact indexed.add rfl added
  · exact indexed

theorem contains_iff (indexed : g.Indexed) {p : Pattern} :
    g.contains p = true ↔ p.key ∈ g.toList.map (·.pattern.key) := by
  rw [contains, indexed.containsKey_iff, List.mem_map]
  apply exists_congr
  intro r
  apply and_congr_right
  intro member
  rw [indexed.key r member]

/-- No two registrations have patterns with one key. -/
theorem nodup_keys (indexed : g.Indexed) : (g.toList.map (·.pattern.key)).Nodup := by
  rw [List.Nodup, List.pairwise_iff_getElem]
  intro m n inRangeM inRangeN before same
  simp only [List.length_map] at inRangeM inRangeN
  simp only [List.getElem_map] at same
  rw [← indexed.key _ (List.getElem_mem inRangeM), ← indexed.key _ (List.getElem_mem inRangeN)]
    at same
  have places := indexed.unique (List.getElem?_eq_getElem inRangeM)
    (List.getElem?_eq_getElem inRangeN) same
  exact Nat.ne_of_lt before places

/-- An entry of a list is the one found by a test that it alone passes. -/
private theorem find?_of_unique {rs : List Registration} {test : Registration → Bool} {n : Nat}
    {r : Registration} (place : rs[n]? = some r) (passes : test r = true)
    (alone : ∀ (m : Nat) (q : Registration), rs[m]? = some q → test q = true → m = n) :
    rs.find? test = some r := by
  cases found : rs.find? test with
  | none =>
      have fails := List.find?_eq_none.mp found r (List.mem_of_getElem? place)
      exact absurd passes fails
  | some q =>
      obtain ⟨m, there⟩ := List.getElem?_of_mem (List.mem_of_find?_eq_some found)
      have same := alone m q there (List.find?_some found)
      rw [same, place] at there
      exact there.symm

/-- The registration at a position that is known for the only entry to pass a test. -/
private theorem bind_getElem?_eq_find? {rs : List Registration} {test : Registration → Bool}
    {position : Option Nat}
    (known : ∀ n : Nat, position = some n ↔ ∃ r, rs[n]? = some r ∧ test r = true) :
    position.bind (fun n => rs[n]?) = rs.find? test := by
  cases position with
  | none =>
      symm
      apply List.find?_eq_none.mpr
      intro r member passes
      obtain ⟨n, place⟩ := List.getElem?_of_mem member
      exact absurd ((known n).mpr ⟨r, place, passes⟩) (by simp)
  | some n =>
      obtain ⟨r, place, passes⟩ := (known n).mp rfl
      rw [Option.bind_some, place]
      symm
      apply find?_of_unique place passes
      intro m q there also
      exact (Option.some.inj ((known m).mpr ⟨q, there, also⟩)).symm

theorem find?_key (indexed : g.Indexed) (key : String) :
    (g.index[key]?).bind (fun n => g.toList[n]?) = g.toList.find? (·.pattern.key == key) := by
  apply bind_getElem?_eq_find?
  intro n
  rw [indexed.index key n]
  apply exists_congr
  intro r
  apply and_congr_right
  intro place
  rw [indexed.key r (List.mem_of_getElem? place), beq_iff_eq]

/-- Selection by the index and the remembered position is a scan of the registrations. -/
theorem select_eq_scan (indexed : g.Indexed) (message : Pattern) :
    g.select message = scan g.toList message := by
  have place : ∀ n : Nat, g.registrations[n]? = g.toList[n]? := by
    intro n
    simp [toList]
  unfold select scan
  simp only [place]
  rw [indexed.find?_key, bind_getElem?_eq_find? indexed.catchAll]
  cases g.toList.find? (·.pattern.key == message.key) with
  | some r => rfl
  | none => exact (Option.map_eq_bind ..).symm

end Indexed

/-! ### Enrolments -/

/-- A pattern whose key is taken is refused. -/
theorem register_of_contains {g : Registry} {pattern : Pattern}
    (taken : g.contains pattern = true) (handler : Handler) (kind : HandlerKind)
    (extras : Extras) :
    g.register pattern handler kind extras = .error (.duplicate pattern.key) := by
  unfold contains at taken
  simp [register, add, Registration.make, taken]

theorem exists_register_iff {g : Registry} {pattern : Pattern} {handler : Handler}
    {kind : HandlerKind} {extras : Extras} :
    (∃ g', g.register pattern handler kind extras = .ok g') ↔ ¬ g.contains pattern = true := by
  cases known : g.contains pattern with
  | true => simp [register_of_contains known]
  | false => simpa using exists_register known handler kind extras

theorem indexed_ofEnrolments (es : List Enrolment) : (ofEnrolments es).Indexed := by
  suffices reached : ∀ g : Registry, g.Indexed → (es.foldl enrol g).Indexed from
    reached empty .start
  induction es with
  | nil =>
      intro g indexed
      exact indexed
  | cons e rest inductionHypothesis =>
      intro g indexed
      exact inductionHypothesis (g.enrol e) (indexed.enrol e)

/-- An enrolment succeeds unless its key is taken, and then it is the last registration. -/
theorem toList_enrol {g : Registry} (indexed : g.Indexed) (e : Enrolment) :
    (g.enrol e).toList =
      if g.toList.any (·.pattern.key == e.pattern.key) then g.toList
      else g.toList ++ [e.registration] := by
  have taken : g.contains e.pattern = g.toList.any (·.pattern.key == e.pattern.key) := by
    rw [Bool.eq_iff_iff, indexed.contains_iff]
    simp
  rw [← taken]
  unfold enrol
  cases known : g.contains e.pattern with
  | true => simp [register_of_contains known]
  | false =>
      obtain ⟨g', registered⟩ := exists_register known e.handler e.kind e.extras
      simp [registered, toList_of_register registered, Enrolment.registration]

theorem toList_ofEnrolments (es : List Enrolment) : (ofEnrolments es).toList = successes es := by
  suffices reached : ∀ g : Registry, g.Indexed →
      (es.foldl enrol g).toList = es.foldl (fun rs e =>
        if rs.any (·.pattern.key == e.pattern.key) then rs else rs ++ [e.registration])
        g.toList from reached empty .start
  induction es with
  | nil =>
      intro g _
      rfl
  | cons e rest inductionHypothesis =>
      intro g indexed
      simp only [List.foldl_cons]
      rw [inductionHypothesis (g.enrol e) (indexed.enrol e), toList_enrol indexed]

theorem resolve_eq_ofSelected (g : Registry) (message : Pattern) :
    g.resolve message = .ofSelected (g.select message) := by
  unfold resolve
  cases g.select message with
  | none => rfl
  | some selected => cases selected <;> rfl

/-- The search for a handler crashes where the match of the message with the only registration does,
unless the message has its key. -/
theorem resolve_eq_crashed {g : Registry} {pattern message : Pattern} {handler : Handler}
    {kind : HandlerKind} {extras : Extras}
    (registered : empty.register pattern handler kind extras = .ok g)
    (other : (pattern.key == message.key) = false)
    (crashes : Pattern.matchesMessage extras.partialMatch pattern message = none) :
    g.resolve message = .crashed := by
  have indexed : g.Indexed := Indexed.start.add rfl registered
  have listed : g.toList = [.make pattern handler kind extras] := toList_of_register registered
  have accepts : (Registration.make pattern handler kind extras).accepts message = none := crashes
  have own : (Registration.make pattern handler kind extras).pattern = pattern := rfl
  rw [resolve_eq_ofSelected, indexed.select_eq_scan, listed, scan, List.find?_cons, own, other]
  simp only [List.find?_nil, findM?_cons, accepts]
  rfl

/-- Resolution is a scan of the successful registrations, whose keys differ. An enrolment succeeds
exactly if its key is none of theirs. -/
theorem resolve_scans_successes (es : List Enrolment) :
    (∀ message, (ofEnrolments es).resolve message = .ofSelected (scan (successes es) message)) ∧
    ((successes es).map (·.pattern.key)).Nodup ∧
    ∀ e : Enrolment,
      (∃ g, (ofEnrolments es).register e.pattern e.handler e.kind e.extras = .ok g) ↔
        e.pattern.key ∉ (successes es).map (·.pattern.key) := by
  have indexed := indexed_ofEnrolments es
  rw [← toList_ofEnrolments]
  refine ⟨?_, ?_, ?_⟩
  · intro message
    rw [resolve_eq_ofSelected, indexed.select_eq_scan]
  · exact indexed.nodup_keys
  · intro e
    rw [← indexed.contains_iff, exists_register_iff]

end Registry
end EventDispatch
