import EventDispatch.Proofs.Handler.Admission
import EventDispatch.Proofs.Handler.InStep
import Mathlib.Data.List.Forall2
import Mathlib.Data.List.Induction
import Mathlib.Data.List.Nodup
/-!
Groups as handlers registered one after another.

Purpose: registering a group is registering its entries in order, each under its own options or
those of the group, up to the first entry whose key is taken. It succeeds exactly if the keys of the
entries differ and are all free. A group that fails leaves its entries before the clash registered
and no others. Registries that were filled by groups are those that single calls lead to.

Main exports: `FirstClash`, `Registry.Registers`, `Registry.Reachable`, `Group.Admits`,
`Registry.reachable_iff`, `Group.registers_up_to_first_clash`.
-/

namespace EventDispatch

/-! ### Keys that clash -/

/-- Keys that can be taken in order, all of them. -/
structure Unclashing (taken keys : List String) : Prop where
  /-- No key occurs twice. -/
  distinct : keys.Nodup
  /-- No key is taken. -/
  free : ∀ key ∈ keys, key ∉ taken

/-- The first of some keys that is taken, or that an earlier one is equal to. -/
structure FirstClash (taken keys : List String) (n : Nat) (key : String) : Prop where
  place : keys[n]? = some key
  clashes : key ∈ taken ∨ key ∈ keys.take n
  before : ∀ (m : Nat) (other : String), m < n → keys[m]? = some other →
    other ∉ taken ∧ other ∉ keys.take m

namespace FirstClash

variable {taken keys : List String} {n : Nat} {key : String}

/-- A key that is taken clashes at once. -/
theorem start (member : key ∈ taken) (rest : List String) :
    FirstClash taken (key :: rest) 0 key where
  place := rfl
  clashes := Or.inl member
  before := by
    intro m _ below
    exact absurd below (Nat.not_lt_zero m)

/-- Behind a key that is free and then taken the clash is the same, one place later. -/
theorem later {first : String} (free : first ∉ taken)
    (clash : FirstClash (taken ++ [first]) keys n key) :
    FirstClash taken (first :: keys) (n + 1) key where
  place := clash.place
  clashes := by
    have here := clash.clashes
    simp only [List.mem_append, List.mem_singleton] at here
    rw [List.take_succ_cons, List.mem_cons, ← or_assoc]
    exact here
  before := by
    intro m other below place
    cases m with
    | zero =>
        cases place
        exact ⟨free, List.not_mem_nil⟩
    | succ m =>
        have absent := clash.before m other (Nat.lt_of_succ_lt_succ below) place
        simp only [List.mem_append, List.mem_singleton, not_or] at absent
        rw [List.take_succ_cons, List.mem_cons, not_or]
        exact ⟨absent.1.1, absent.1.2, absent.2⟩

/-- Where a key clashes, not all can be taken. -/
theorem not_unclashing (clash : FirstClash taken keys n key) : ¬ Unclashing taken keys := by
  intro fits
  rcases clash.clashes with member | earlier
  · exact fits.free key (List.mem_of_getElem? clash.place) member
  · obtain ⟨m, below, same⟩ := List.mem_take_iff_getElem.mp earlier
    obtain ⟨inRange, here⟩ := List.getElem?_eq_some_iff.mp clash.place
    have one := (List.Nodup.getElem_inj_iff fits.distinct).mp (same.trans here.symm)
    omega

/-- A key in front of the first clash does not clash. -/
private theorem not_lt {m : Nat} {other : String} (clash : FirstClash taken keys n key)
    (there : FirstClash taken keys m other) : ¬ m < n := by
  intro below
  have absent := clash.before m other below there.place
  rcases there.clashes with member | earlier
  · exact absent.1 member
  · exact absent.2 earlier

theorem unique {m : Nat} {other : String} (clash : FirstClash taken keys n key)
    (there : FirstClash taken keys m other) : n = m ∧ key = other := by
  have same : n = m :=
    Nat.le_antisymm (Nat.le_of_not_lt (not_lt clash there)) (Nat.le_of_not_lt (not_lt there clash))
  subst same
  exact ⟨rfl, Option.some.inj (clash.place.symm.trans there.place)⟩

end FirstClash

namespace Unclashing

theorem nil (taken : List String) : Unclashing taken [] := ⟨List.nodup_nil, by simp⟩

theorem cons {taken keys : List String} {first : String} (free : first ∉ taken)
    (fits : Unclashing (taken ++ [first]) keys) : Unclashing taken (first :: keys) where
  distinct := by
    apply List.nodup_cons.mpr
    refine ⟨?_, fits.distinct⟩
    intro again
    exact fits.free first again (by simp)
  free := by
    intro key member
    rcases List.mem_cons.mp member with rfl | later
    · exact free
    · intro held
      exact fits.free key later (List.mem_append_left [first] held)

end Unclashing

/-! ### Registrations one after another -/

namespace Registry

/-- Handlers are registered one after another, each with success. -/
inductive Registers : Registry → List Enrolment → Registry → Prop where
  | nil (g : Registry) : Registers g [] g
  | cons {g g' g'' : Registry} {e : Enrolment} {es : List Enrolment}
      (first : g.register e.pattern e.handler e.kind e.extras = .ok g')
      (rest : Registers g' es g'') : Registers g (e :: es) g''

theorem Registers.eq_foldl {g g' : Registry} {es : List Enrolment} (registers : g.Registers es g') :
    g' = es.foldl enrol g := by
  induction registers with
  | nil g => rfl
  | cons first _ inductionHypothesis => rw [List.foldl_cons, enrol, first, inductionHypothesis]

/-- Enrolments are added with success up to the first clash of keys. -/
theorem Holds.addAll_cases {g : Registry} {rs : List Registration} (holds : g.Holds rs)
    (es : List Enrolment) :
    ∃ (n : Nat) (g' : Registry), g.Registers (es.take n) g' ∧
      g'.Holds (rs ++ (es.take n).map Enrolment.registration) ∧
      ((n = es.length ∧ Unclashing (rs.map (·.pattern.key)) (es.map (·.pattern.key)) ∧
          g.addAll (es.map Enrolment.registration) = (g', none)) ∨
        ∃ key, FirstClash (rs.map (·.pattern.key)) (es.map (·.pattern.key)) n key ∧
          g.addAll (es.map Enrolment.registration) = (g', some (.duplicate key))) := by
  induction es generalizing g rs with
  | nil =>
      exact ⟨0, g, .nil g, by simpa using holds, Or.inl ⟨rfl, .nil _, rfl⟩⟩
  | cons e rest inductionHypothesis =>
      have key : e.registration.pattern.key = e.pattern.key := rfl
      rcases holds.add (r := e.registration) rfl with ⟨taken, refused⟩ | ⟨free, next, added, held⟩
      · have member : e.pattern.key ∈ rs.map (·.pattern.key) := by
          simpa [key] using taken
        refine ⟨0, g, .nil g, by simpa using holds, Or.inr ⟨e.pattern.key, .start member _, ?_⟩⟩
        simp [Registry.addAll, refused, key]
      · have absent : e.pattern.key ∉ rs.map (·.pattern.key) := by
          simpa [key] using free
        obtain ⟨n, g', registers, reached, outcome⟩ := inductionHypothesis held
        have keys : (rs ++ [e.registration]).map (·.pattern.key)
            = rs.map (·.pattern.key) ++ [e.pattern.key] := by simp [key]
        rw [keys] at outcome
        refine ⟨n + 1, g', .cons added registers, by simpa using reached, ?_⟩
        rcases outcome with ⟨all, fits, done⟩ | ⟨clashing, clash, failed⟩
        · exact Or.inl ⟨by simp [all], fits.cons absent, by simp [Registry.addAll, added, done]⟩
        · exact Or.inr ⟨clashing, clash.later absent, by simp [Registry.addAll, added, failed]⟩

end Registry

/-! ### Groups -/

/-- A registration has the data of an entry: its own options if it has some, else the rule of
matching that is usual in its group. -/
structure GroupEntry.Becomes (usual : Bool) (e : GroupEntry) (r : Registration) : Prop where
  key : r.key = e.pattern.key
  pattern : r.pattern = e.pattern
  handler : r.handler = e.handler
  kind : r.kind = e.kind
  own : ∀ extras, e.extras = some extras → r.extras = extras
  usual : e.extras = none → r.extras.partialMatch = usual

namespace Group

/-- The keys of the entries, in order. -/
def keys (group : Group) : List String := group.entries.map (·.pattern.key)

/-- The calls that register the entries one by one. -/
def enrolments (group : Group) : List Enrolment :=
  group.entries.map fun e => ⟨e.pattern, e.handler, e.kind, e.extras.getD ⟨group.partialMatch⟩⟩

theorem registrations_eq (group : Group) :
    group.registrations = group.enrolments.map Enrolment.registration := by
  simp [registrations, enrolments, Enrolment.registration, Function.comp_def]

theorem keys_eq (group : Group) : group.keys = group.enrolments.map (·.pattern.key) := by
  simp [keys, enrolments, Function.comp_def]

/-- The registrations of the first entries carry the data of these entries. -/
theorem becomes_registrations (group : Group) (n : Nat) :
    List.Forall₂ (GroupEntry.Becomes group.partialMatch) (group.entries.take n)
      ((group.enrolments.take n).map Enrolment.registration) := by
  rw [enrolments, ← List.map_take, List.map_map, List.forall₂_map_right_iff,
    List.forall₂_same]
  intro e _
  constructor
  case own =>
    intro extras own
    simp [Enrolment.registration, Registration.make, own]
  case usual =>
    intro without
    simp [Enrolment.registration, Registration.make, without]
  all_goals rfl

/-- A registry that is another one followed by the first entries of a group. -/
structure Admits (group : Group) (g : Registry) (n : Nat) (g' : Registry) : Prop where
  /-- Registering these entries one by one leads to it, without an error. -/
  sequential : g.Registers (group.enrolments.take n) g'
  /-- Their registrations stand in order behind the others, and the index is right. -/
  followed : ∃ rs, List.Forall₂ (GroupEntry.Becomes group.partialMatch) (group.entries.take n) rs ∧
    g'.InStep (g.toList ++ rs)

/-- A group is registered to its end, or to the entry in front of the first clash. -/
theorem registerInto_cases {g : Registry} (indexed : g.Indexed) (group : Group) :
    ∃ n, group.Admits g n (group.registerInto g).1 ∧
      ((n = group.size ∧ Unclashing (g.toList.map (·.key)) group.keys ∧
          (group.registerInto g).2 = .ok group.size) ∨
        ∃ key, FirstClash (g.toList.map (·.key)) group.keys n key ∧
          (group.registerInto g).2 = .error (.duplicate key)) := by
  have holds : g.Holds g.toList := ⟨indexed, rfl⟩
  obtain ⟨n, g', registers, reached, outcome⟩ := holds.addAll_cases group.enrolments
  have inStep := reached.indexed.inStep
  rw [reached.listed] at inStep
  have admits : group.Admits g n g' := ⟨registers, _, group.becomes_registrations n, inStep⟩
  rw [← group.registrations_eq, ← group.keys_eq, ← indexed.map_key] at outcome
  rcases outcome with ⟨all, fits, done⟩ | ⟨key, clash, failed⟩
  · have length : n = group.size := by simpa [size, enrolments] using all
    exact ⟨n, by simpa [registerInto, done] using admits, Or.inl ⟨length, fits, by
      simp [registerInto, done]⟩⟩
  · exact ⟨n, by simpa [registerInto, failed] using admits, Or.inr ⟨key, clash, by
      simp [registerInto, failed]⟩⟩

end Group

/-! ### Reachable registries -/

namespace Registry

/-- The registries that calls for single handlers and for groups lead to, with or without
success. -/
inductive Reachable : Registry → Prop where
  | empty : Reachable .empty
  | single {g : Registry} (reachable : Reachable g) (e : Enrolment) : Reachable (g.enrol e)
  | group {g : Registry} (reachable : Reachable g) (group : Group) :
      Reachable (group.registerInto g).1

/-- Calls for single handlers lead to them, too. -/
theorem Reachable.exists_enrolments {g : Registry} (reachable : g.Reachable) :
    ∃ es, g = ofEnrolments es := by
  induction reachable with
  | empty => exact ⟨[], rfl⟩
  | single _ e inductionHypothesis =>
      obtain ⟨es, rfl⟩ := inductionHypothesis
      exact ⟨es ++ [e], (ofEnrolments_concat es e).symm⟩
  | group _ group inductionHypothesis =>
      obtain ⟨es, rfl⟩ := inductionHypothesis
      obtain ⟨n, admits, _⟩ := group.registerInto_cases (indexed_ofEnrolments es)
      refine ⟨es ++ group.enrolments.take n, ?_⟩
      rw [admits.sequential.eq_foldl, ofEnrolments, ofEnrolments, List.foldl_append]

theorem reachable_iff {g : Registry} : g.Reachable ↔ ∃ es, g = ofEnrolments es := by
  constructor
  · exact Reachable.exists_enrolments
  · rintro ⟨es, rfl⟩
    induction es using List.reverseRecOn with
    | nil => exact .empty
    | append_singleton es e inductionHypothesis =>
        rw [ofEnrolments_concat]
        exact inductionHypothesis.single e

theorem Reachable.indexed {g : Registry} (reachable : g.Reachable) : g.Indexed := by
  obtain ⟨es, rfl⟩ := reachable.exists_enrolments
  exact indexed_ofEnrolments es

end Registry

namespace Group

/-- Registering a group gives the number of its entries exactly if their keys differ and none is
taken, and then the entries follow the registrations there were. Else it gives the key of the first
entry that clashes as a duplicate, and the entries in front of it follow, and no others. -/
theorem registers_up_to_first_clash {g : Registry} (reachable : g.Reachable) (group : Group) :
    ((∃ n, (group.registerInto g).2 = .ok n) ↔
      group.keys.Nodup ∧ ∀ key ∈ group.keys, key ∉ g.toList.map (·.key)) ∧
    (∀ n, (group.registerInto g).2 = .ok n →
      n = group.entries.length ∧
      group.Admits g group.entries.length (group.registerInto g).1) ∧
    (∀ error, (group.registerInto g).2 = .error error →
      ∃ n key, FirstClash (g.toList.map (·.key)) group.keys n key ∧ error = .duplicate key ∧
        group.Admits g n (group.registerInto g).1) := by
  obtain ⟨n, admits, outcome⟩ := group.registerInto_cases reachable.indexed
  rcases outcome with ⟨rfl, fits, done⟩ | ⟨key, clash, failed⟩
  · refine ⟨⟨fun _ => ⟨fits.distinct, fits.free⟩, fun _ => ⟨_, done⟩⟩, ?_, ?_⟩
    · intro n given
      rw [done] at given
      cases given
      exact ⟨rfl, admits⟩
    · intro error given
      rw [done] at given
      cases given
  · refine ⟨⟨?_, ?_⟩, ?_, ?_⟩
    · rintro ⟨n, given⟩
      rw [failed] at given
      cases given
    · rintro ⟨distinct, free⟩
      exact absurd ⟨distinct, free⟩ clash.not_unclashing
    · intro n given
      rw [failed] at given
      cases given
    · intro error given
      rw [failed] at given
      cases given
      exact ⟨n, key, clash, rfl, admits⟩

/-- Three entries, the second under the key of the number one. -/
def overlapping : Group where
  partialMatch := true
  entries := [⟨.string "a", Registry.one.handler, .message, some ⟨false⟩⟩,
    ⟨.string "1", Registry.one.handler, .event, none⟩,
    ⟨.string "b", Registry.one.handler, .message, none⟩]

/-- With a handler for the number one there, the group stops in front of its second entry. -/
theorem overlapping_stops :
    (Registry.ofEnrolments [Registry.one]).Reachable ∧
      (overlapping.registerInto (.ofEnrolments [Registry.one])).2 = .error (.duplicate "1") ∧
      overlapping.Admits (.ofEnrolments [Registry.one]) 1
        (overlapping.registerInto (.ofEnrolments [Registry.one])).1 := by
  have reachable : (Registry.ofEnrolments [Registry.one]).Reachable :=
    Registry.reachable_iff.mpr ⟨_, rfl⟩
  have keys : (Registry.ofEnrolments [Registry.one]).toList.map (·.key) = ["1"] := by
    rw [Registry.toList_ofEnrolments]
    decide
  have clashing : FirstClash ["1"] overlapping.keys 1 "1" := by
    refine ⟨by decide, Or.inl (by decide), ?_⟩
    intro m other below place
    have first : m = 0 := by omega
    subst first
    cases place
    decide
  obtain ⟨succeeds, _, fails⟩ := registers_up_to_first_clash reachable overlapping
  rw [keys] at succeeds fails
  cases given : (overlapping.registerInto (.ofEnrolments [Registry.one])).2 with
  | ok n =>
      obtain ⟨distinct, free⟩ := succeeds.mp ⟨n, given⟩
      exact absurd ⟨distinct, free⟩ clashing.not_unclashing
  | error error =>
      obtain ⟨n, key, clash, rfl, admits⟩ := fails error given
      obtain ⟨rfl, rfl⟩ := clash.unique clashing
      exact ⟨reachable, rfl, admits⟩

end Group
end EventDispatch
