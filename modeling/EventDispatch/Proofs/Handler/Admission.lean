import EventDispatch.Handler.Group
import EventDispatch.Proofs.Handler.Scan
import EventDispatch.Service.Handling
/-!
Registrations made one after another.

Purpose: a registry holds a list of registrations if the list is its own and its index is right.
Adding several registrations in order is then a matter of the list alone: each goes to the end, up
to the first whose key is taken. Single registrations and groups are admitted by one rule.

Main exports: `Registry.Holds`, `Registry.extend`, `Registry.handling`, `Registry.Holds.resolve`,
`Registry.Holds.handle`, `Registry.Holds.addAll`.
-/

namespace EventDispatch

/-- The registrations of a group carry the keys of their patterns. -/
theorem Group.key_of_mem_registrations {group : Group} {r : Registration}
    (member : r ∈ group.registrations) : r.key = r.pattern.key := by
  simp only [Group.registrations, List.mem_map] at member
  obtain ⟨entry, _, rfl⟩ := member
  rfl

namespace Registry

/-- A registry holds registrations, in order, and its index is right. -/
structure Holds (g : Registry) (rs : List Registration) : Prop where
  indexed : g.Indexed
  listed : g.toList = rs

/-- Registrations with further ones admitted in order, up to the first whose key is taken, and the
error if there is such a one. -/
def extend (rs : List Registration) : List Registration → List Registration × Option RegistryError
  | [] => (rs, none)
  | r :: more =>
    if rs.any (·.pattern.key == r.pattern.key) then (rs, some (.duplicate r.pattern.key))
    else extend (rs ++ [r]) more

/-- How a request is handled by the one of some registrations that a scan selects. -/
def handling (rs : List Registration) (q : Request) : Handling :=
  match (Resolution.ofSelected (scan rs q.pattern)).result? with
  | some (.error e) => .answered (.failure q.id e)
  | some (.ok r) => (r.handler q).handling q.id
  | none => .lost

namespace Holds

variable {g : Registry} {rs : List Registration}

theorem start : Holds empty [] := ⟨.start, rfl⟩

/-- A message goes where a scan of the registrations says. -/
theorem resolve (holds : g.Holds rs) (message : Pattern) :
    g.resolve message = .ofSelected (scan rs message) := by
  rw [resolve_eq_ofSelected, holds.indexed.select_eq_scan, holds.listed]

/-- So does a request, with the answer of the handler that takes it. -/
theorem handle (holds : g.Holds rs) (q : Request) : g.handle q = handling rs q := by
  rw [Registry.handle, holds.resolve]
  rfl

theorem contains_eq (holds : g.Holds rs) (p : Pattern) :
    g.contains p = rs.any (·.pattern.key == p.key) := by
  rw [Bool.eq_iff_iff, holds.indexed.contains_iff, holds.listed]
  simp

/-- A registration under the key of its pattern is refused if the key is taken, and goes to the end
if it is free. -/
theorem add (holds : g.Holds rs) {r : Registration} (own : r.key = r.pattern.key) :
    (rs.any (·.pattern.key == r.pattern.key) = true ∧
      g.add r = .error (.duplicate r.pattern.key)) ∨
    (rs.any (·.pattern.key == r.pattern.key) = false ∧
      ∃ g', g.add r = .ok g' ∧ g'.Holds (rs ++ [r])) := by
  have made : r = .make r.pattern r.handler r.kind r.extras := by
    rw [Registration.make, ← own]
  have asked : g.add r = g.register r.pattern r.handler r.kind r.extras := by
    rw [register, ← made]
  rw [← holds.contains_eq r.pattern]
  cases known : g.contains r.pattern with
  | true =>
      left
      rw [asked, register_of_contains known]
      exact ⟨rfl, rfl⟩
  | false =>
      right
      obtain ⟨g', registered⟩ := exists_register known r.handler r.kind r.extras
      have listed := toList_of_register registered
      rw [← made, holds.listed] at listed
      refine ⟨rfl, g', asked.trans registered, ?_, listed⟩
      exact holds.indexed.add own (asked.trans registered)

/-- Adding registrations in order admits them. -/
theorem addAll (holds : g.Holds rs) {more : List Registration}
    (own : ∀ r ∈ more, r.key = r.pattern.key) :
    (g.addAll more).1.Holds (extend rs more).1 ∧ (g.addAll more).2 = (extend rs more).2 := by
  induction more generalizing g rs with
  | nil => exact ⟨holds, rfl⟩
  | cons r rest inductionHypothesis =>
      unfold Registry.addAll extend
      rcases holds.add (own r List.mem_cons_self) with ⟨taken, refused⟩ | ⟨free, g', added, held⟩
      · simpa [taken, refused] using holds
      · have later := inductionHypothesis held fun q member => own q (List.mem_cons_of_mem r member)
        simpa [free, added] using later

end Holds
end Registry
end EventDispatch
