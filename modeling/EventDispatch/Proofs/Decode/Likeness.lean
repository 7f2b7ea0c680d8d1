import EventDispatch.Proofs.Decode.Record
import EventDispatch.Proofs.Json.ReadBack
/-!
Decoding values and decoding their text.

Purpose: a decoder that looks at strings, nulls, mappings and records only reads from a written form
what it reads from a value that the form spells. Numbers play no part in it.

Main exports: `SpellsEntry`, `Decode.Carries`, `Decode.Carries.mapOf`, `Field.Carries`,
`Record.Carries`, `Record.Carries.decode`.
-/

namespace EventDispatch

open Written (Spells SpellsItems SpellsFields)

/-- A written entry has the name of an entry and spells its value. -/
def SpellsEntry (w : String × Written) (v : String × Json) : Prop := w.1 = v.1 ∧ w.2.Spells v.2

namespace Written

theorem forall₂_of_spellsItems {ws : List Written} {vs : List Json} (spelled : SpellsItems ws vs) :
    List.Forall₂ Spells ws vs := by
  induction vs generalizing ws with
  | nil =>
      cases ws with
      | nil => exact .nil
      | cons w ws => exact spelled.elim
  | cons v vs inductionHypothesis =>
      cases ws with
      | nil => exact spelled.elim
      | cons w ws => exact .cons spelled.1 (inductionHypothesis spelled.2)

/-- Written fields that spell fields all have names. -/
theorem forall₂_of_spellsFields {ws : List (Option String × Written)} {vs : List (String × Json)}
    (spelled : SpellsFields ws vs) :
    ∃ named, namedFields ws = some named ∧ List.Forall₂ SpellsEntry named vs := by
  induction vs generalizing ws with
  | nil =>
      cases ws with
      | nil => exact ⟨[], rfl, .nil⟩
      | cons w ws => exact spelled.elim
  | cons v vs inductionHypothesis =>
      cases ws with
      | nil => exact spelled.elim
      | cons w ws =>
          obtain ⟨name, form⟩ := w
          obtain ⟨rfl, one, others⟩ := spelled
          obtain ⟨named, names, each⟩ := inductionHypothesis others
          refine ⟨(v.1, form) :: named, ?_, .cons ⟨rfl, one⟩ each⟩
          rw [namedFields, names, Option.map_some]

/-- What spells a value is null only where the value is. -/
theorem view_ne_null {w : Written} {v : Json} (spelled : w.Spells v) (present : v ≠ .null) :
    view w ≠ .null := by
  cases w with
  | null =>
      cases v with
      | null => exact absurd rfl present
      | _ => exact spelled.elim
  | number n =>
      cases n with
      | none => simp [view]
      | some n => cases n <;> simp [view]
  | string s => cases s <;> simp [view]
  | object fields =>
      simp only [view]
      split <;> simp
  | _ => simp [view]

end Written

namespace Decode

variable {α : Type}

/-- What a decoder reads from a value, its counterpart reads from each written form of the value. -/
def Carries (values : Json → Decoded α) (texts : Written → Decoded α) : Prop :=
  ∀ {v w x}, Spells w v → values v = .ok x → texts w = .ok x

namespace Carries

theorem string : Carries Decode.string Decode.string := by
  intro v w x spelled read
  obtain rfl := string_eq_ok_iff.mp read
  cases w with
  | string s =>
      obtain rfl : s = some x := spelled
      rfl
  | _ => exact spelled.elim

variable {values : Json → Decoded α} {texts : Written → Decoded α}

theorem optional (carries : Carries values texts) :
    Carries (Decode.optional values) (Decode.optional texts) := by
  intro v w x spelled read
  rw [optional_json] at read
  by_cases null : v = .null
  · subst null
    cases w with
    | null => exact read
    | _ => exact spelled.elim
  · rw [if_neg (by rwa [Json.isNull_iff])] at read
    have present := Written.view_ne_null spelled null
    cases outcome : values v with
    | error e =>
        rw [outcome] at read
        cases read
    | ok y =>
        rw [outcome] at read
        unfold Decode.optional
        split
        · rename_i absent
          exact absurd absent present
        · rw [carries spelled outcome]
          exact read

/-- Entries are read one by one. -/
theorem entries (carries : Carries values texts) {ws : List (String × Written)}
    {vs : List (String × Json)} (spelled : List.Forall₂ SpellsEntry ws vs)
    {xs : List (String × α)} (read : Decode.entries values vs = .ok xs) :
    Decode.entries texts ws = .ok xs := by
  induction spelled generalizing xs with
  | nil => exact read
  | @cons w v ws vs one _ inductionHypothesis =>
      obtain ⟨name, form⟩ := w
      obtain ⟨_, value⟩ := v
      obtain ⟨rfl, form'⟩ := one
      obtain ⟨x, first, others, later, all⟩ := entries_cons_eq_ok_iff.mp read
      exact entries_cons_eq_ok_iff.mpr
        ⟨x, carries form' first, others, inductionHypothesis later, all⟩

theorem mapOf (carries : Carries values texts) :
    Carries (Decode.mapOf values) (Decode.mapOf texts) := by
  intro v w x spelled read
  cases v with
  | object vs =>
      cases w with
      | object ws =>
          obtain ⟨named, names, each⟩ := Written.forall₂_of_spellsFields spelled
          unfold Decode.mapOf at read ⊢
          simp only [Source.view, Json.view, Written.view, names] at read ⊢
          cases all : Decode.entries values vs with
          | error e =>
              rw [all] at read
              cases read
          | ok xs =>
              rw [all] at read
              rw [carries.entries each all]
              exact read
      | _ => exact spelled.elim
  | number n => cases n <;> cases read
  | _ => cases read

/-- So are changes of a record that write what is read. -/
theorem write {ρ : Type} (carries : Carries values texts) (write : α → ρ → ρ) :
    Carries (fun v => (values v).map write) (fun w => (texts w).map write) := by
  intro v w change spelled read
  dsimp only at read ⊢
  cases decoded : values v with
  | error e =>
      rw [decoded] at read
      cases read
  | ok x =>
      rw [decoded] at read
      rw [carries spelled decoded]
      exact read

end Carries
end Decode

/-! ### Records -/

namespace Field

variable {ρ : Type}

/-- A field of a record is read from a written form as it is read from a value. -/
structure Carries (values : Field Json ρ) (texts : Field Written ρ) : Prop where
  name : texts.name = values.name
  optional : texts.optional = values.optional
  read : Decode.Carries values.read texts.read

theorem Carries.required {α : Type} {values : Json → Decoded α} {texts : Written → Decoded α}
    (carries : Decode.Carries values texts) (name : String) (write : α → ρ → ρ) :
    Carries (.required name values write) (.required name texts write) :=
  ⟨rfl, rfl, carries.write write⟩

theorem Carries.defaulted {α : Type} {values : Json → Decoded α} {texts : Written → Decoded α}
    (carries : Decode.Carries values texts) (name : String) (write : α → ρ → ρ) :
    Carries (.defaulted name values write) (.defaulted name texts write) :=
  ⟨rfl, rfl, carries.write write⟩

end Field

namespace Record

variable {ρ : Type}

/-- The shapes of a record in values and in written forms: the same fields, read alike. -/
structure Carries (values : Record Json ρ) (texts : Record Written ρ) : Prop where
  fields : List.Forall₂ Field.Carries values.fields texts.fields
  blank : texts.blank = values.blank
  positional : texts.positional = values.positional

/-- Fields that are read alike are found alike, by their names and by whether they may be left
out. -/
theorem find?_carries {fields : List (Field Json ρ)} {others : List (Field Written ρ)}
    (each : List.Forall₂ Field.Carries fields others) (p : String → Bool → Bool) :
    (fields.find? (fun f => p f.name f.optional) = none ∧
        others.find? (fun g => p g.name g.optional) = none) ∨
      ∃ f g, fields.find? (fun f => p f.name f.optional) = some f ∧
        others.find? (fun g => p g.name g.optional) = some g ∧ f.Carries g := by
  induction each with
  | nil => exact Or.inl ⟨rfl, rfl⟩
  | @cons f g fields others one _ inductionHypothesis =>
      rw [List.find?_cons, List.find?_cons, one.name, one.optional]
      cases p f.name f.optional with
      | true => exact Or.inr ⟨f, g, rfl, rfl, one⟩
      | false => exact inductionHypothesis

namespace Carries

variable {values : Record Json ρ} {texts : Record Written ρ}

theorem missing? (carries : values.Carries texts) (seen : List String) :
    texts.missing? seen = values.missing? seen := by
  unfold Record.missing?
  rcases find?_carries carries.fields fun name optional => !optional && !seen.contains name with
    ⟨absent, absent'⟩ | ⟨f, g, found, found', one⟩
  · rw [absent, absent']
    rfl
  · rw [found, found', Option.map_some, Option.map_some, one.name]

/-- Entries are read into the record alike. -/
theorem readEntries (carries : values.Carries texts) {ws : List (String × Written)}
    {vs : List (String × Json)} (spelled : List.Forall₂ SpellsEntry ws vs) {seen : List String}
    {r result : ρ} (read : values.readEntries vs seen r = .ok result) :
    texts.readEntries ws seen r = .ok result := by
  induction spelled generalizing seen r with
  | nil =>
      unfold Record.readEntries at read ⊢
      rw [carries.missing?]
      exact read
  | @cons w v ws vs one _ inductionHypothesis =>
      obtain ⟨name, form⟩ := w
      obtain ⟨_, value⟩ := v
      obtain ⟨rfl, form'⟩ := one
      rcases readEntries_cons read with ⟨unknown, later⟩ | ⟨f, write, known, unseen, readOne, later⟩
      · rcases find?_carries carries.fields fun other _ => other == name with
          ⟨_, absent⟩ | ⟨f, g, found, _⟩
        · unfold Record.readEntries
          simp only [absent]
          exact inductionHypothesis later
        · rw [unknown] at found
          cases found
      · rcases find?_carries carries.fields fun other _ => other == name with
          ⟨absent, _⟩ | ⟨f', g, found, found', one⟩
        · rw [known] at absent
          cases absent
        · rw [known] at found
          cases found
          unfold Record.readEntries
          simp only [found', List.contains_iff_mem, unseen, if_false, one.read form' readOne]
          exact inductionHypothesis later

/-- Elements are read into the record alike, by position. -/
theorem readItems {fields : List (Field Json ρ)} {others : List (Field Written ρ)}
    (each : List.Forall₂ Field.Carries fields others) {ws : List Written} {vs : List Json}
    (spelled : List.Forall₂ Spells ws vs) {length position : Nat} {r result : ρ}
    (read : values.readItems length fields position vs r = .ok result) :
    texts.readItems length others position ws r = .ok result := by
  induction each generalizing ws vs position r with
  | nil =>
      cases spelled with
      | nil => exact read
      | cons => cases read
  | @cons f g fields others one _ inductionHypothesis =>
      cases spelled with
      | nil =>
          unfold Record.readItems at read ⊢
          rw [one.optional]
          split at read
          · rename_i dispensable
            rw [if_pos dispensable]
            exact inductionHypothesis .nil read
          · cases read
      | cons form further =>
          unfold Record.readItems at read ⊢
          cases outcome : f.read _ with
          | error e =>
              rw [outcome] at read
              cases read
          | ok write =>
              rw [outcome] at read
              rw [one.read form outcome]
              exact inductionHypothesis further read

/-- A record is read from a written form as it is read from a value. -/
theorem decode (carries : values.Carries texts) : Decode.Carries values.decode texts.decode := by
  intro v w r spelled read
  cases v with
  | object vs =>
      cases w with
      | object ws =>
          obtain ⟨named, names, each⟩ := Written.forall₂_of_spellsFields spelled
          unfold Record.decode at read ⊢
          simp only [Source.view, Json.view, Written.view, names] at read ⊢
          rw [carries.blank]
          exact carries.readEntries each read
      | _ => exact spelled.elim
  | array vs =>
      cases w with
      | array ws =>
          have each := Written.forall₂_of_spellsItems spelled
          unfold Record.decode at read ⊢
          simp only [Source.view, Json.view, Written.view] at read ⊢
          rw [carries.blank, carries.positional, each.length_eq]
          split at read
          · rename_i positional
            rw [if_pos positional]
            exact readItems carries.fields each read
          · cases read
      | _ => exact spelled.elim
  | number n => cases n <;> cases read
  | _ => cases read

end Carries
end Record
end EventDispatch
