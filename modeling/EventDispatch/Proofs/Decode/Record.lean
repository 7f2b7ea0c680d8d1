import EventDispatch.Decode.Basic
import EventDispatch.Proofs.Json.Fields
/-!
Records that are decoded from objects.

Purpose: what a decoded record holds in one place is decided by the entry under one name alone. The
other entries have no part in it, whatever their order. What no field spoils is true of every
decoded record. An object whose entries can be read, and that leaves no required field out, can be
decoded.

Main exports: `Decode.word32_eq_ok_iff`, `Field.Spares`, `Record.Holds`, `Record.Holds.of_decode`,
`Record.Holds.of_get?`, `Record.Holds.get?_of_needed`, `Record.decode_keeps`,
`Record.exists_decode`.
-/

namespace EventDispatch

/-- Steps one after the other succeed if each one does. -/
theorem bind_eq_ok_iff {ε α β : Type} {x : Except ε α} {f : α → Except ε β} {b : β} :
    (x >>= f) = .ok b ↔ ∃ a, x = .ok a ∧ f a = .ok b := by
  cases x <;> simp [bind, Except.bind]

/-- Steps one after the other fail with the error of the first step that fails. -/
theorem bind_eq_error_iff {ε α β : Type} {x : Except ε α} {f : α → Except ε β} {e : ε} :
    (x >>= f) = .error e ↔ x = .error e ∨ ∃ a, x = .ok a ∧ f a = .error e := by
  cases x <;> simp [bind, Except.bind]

/-! ### Leaves -/

@[simp] theorem Json.get?_object (fields : Fields Json) (name : String) :
    (Json.object fields).get? name = Fields.find? name fields := rfl

theorem Json.isNull_iff {v : Json} : v.isNull = true ↔ v = .null := by
  cases v <;> simp [isNull]

/-- Leaving out null changes what is null and nothing else. -/
theorem Json.filter_not_isNull_eq_iff {o : Option Json} :
    o.filter (!·.isNull) = o ↔ o ≠ some .null := by
  cases o with
  | none => simp
  | some v => simp [Option.filter_some, ← Json.isNull_iff]

namespace Decode

variable {α β : Type}

@[simp] theorem string_string (x : String) : string (Json.string x) = .ok x := rfl

@[simp] theorem bool_bool (x : Bool) : bool (Json.bool x) = .ok x := rfl

@[simp] theorem any_json (v : Json) : any v = .ok v := rfl

/-- Null reads as absent, whatever is read otherwise. -/
theorem optional_json (decode : Json → Decoded α) (v : Json) :
    optional decode v = if v.isNull then .ok none else (decode v).map some := by
  cases v with
  | number n => cases n <;> rfl
  | _ => rfl

/-- What was written for a value that may be absent can be read. -/
theorem exists_optional {decode : Json → Decoded α} {encode : β → Json} {back : β → α}
    (reads : ∀ x, decode (encode x) = .ok (back x)) {found : Option Json} {o : Option β}
    (written : found = o.map encode) (v : Json) (present : found = some v) :
    ∃ x, optional decode v = .ok x := by
  subst written
  obtain ⟨x, _, rfl⟩ := Option.map_eq_some_iff.mp present
  rw [optional_json, reads]
  cases (encode x).isNull with
  | true => exact ⟨none, rfl⟩
  | false => exact ⟨some (back x), rfl⟩

theorem exists_optional_any (v : Json) : ∃ x, optional any v = .ok x :=
  exists_optional any_json Option.map_id'.symm v rfl

theorem string_eq_ok_iff {v : Json} {x : String} : string v = .ok x ↔ v = .string x := by
  constructor
  · intro decoded
    cases v with
    | string y =>
        cases decoded
        rfl
    | number n => cases n <;> cases decoded
    | _ => cases decoded
  · rintro rfl
    rfl

/-- An integer is read from the number of that integer, and from nothing else. -/
theorem integer_eq_ok_iff {range : IntRange} {v : Json} {i : Int} :
    integer range v = .ok i ↔
      (∃ fits, v = .number (.integer i fits)) ∧ range.low ≤ i ∧ i ≤ range.high := by
  constructor
  · intro read
    cases v with
    | number n =>
        cases n with
        | integer j fits =>
            unfold integer at read
            simp only [Source.view, Json.view] at read
            split at read
            · rename_i within
              cases read
              exact ⟨⟨fits, rfl⟩, within⟩
            · cases read
        | double x => cases read
    | _ => cases read
  · rintro ⟨⟨fits, rfl⟩, within⟩
    unfold integer
    simp only [Source.view, Json.view]
    rw [if_pos within]

/-- What an integer of a range stands for is read from the number of that integer, and from nothing
else. -/
theorem map_integer_eq_ok_iff {range : IntRange} {back : Int → α} (forth : α → Int)
    (within : ∀ x, range.low ≤ forth x ∧ forth x ≤ range.high)
    (fits : ∀ x, Number.Fits (forth x)) (back_forth : ∀ x, back (forth x) = x)
    (forth_back : ∀ i, range.low ≤ i → i ≤ range.high → forth (back i) = i) {v : Json} {x : α} :
    (integer range v).map back = .ok x ↔ v = Json.ofInt (forth x) := by
  have written : Json.ofInt (forth x) = .number (.integer (forth x) (fits x)) := by
    unfold Json.ofInt Number.ofInt
    rw [dif_pos (fits x)]
  rw [written]
  constructor
  · intro decoded
    cases read : integer range v with
    | error e =>
        rw [read] at decoded
        cases decoded
    | ok i =>
        rw [read] at decoded
        cases decoded
        obtain ⟨⟨_, rfl⟩, low, high⟩ := integer_eq_ok_iff.mp read
        simp only [forth_back i low high]
  · rintro rfl
    have read : integer range (Json.number (.integer (forth x) (fits x))) = .ok (forth x) :=
      integer_eq_ok_iff.mpr ⟨⟨fits x, rfl⟩, within x⟩
    rw [read]
    exact congrArg Except.ok (back_forth x)

theorem word32_eq_ok_iff {v : Json} {n : UInt32} :
    word32 v = .ok n ↔ v = Json.ofInt n.toNat := by
  apply map_integer_eq_ok_iff fun n : UInt32 => (n.toNat : Int)
  · intro n
    have small := n.toNat_lt
    simp only [unsigned32]
    omega
  · intro n
    have small := n.toNat_lt
    unfold Number.Fits
    omega
  · intro n
    rw [Int.toNat_natCast, UInt32.ofNat_toNat]
  · intro i low high
    simp only [unsigned32] at low high
    rw [UInt32.toNat_ofNat']
    omega

theorem word64_eq_ok_iff {v : Json} {n : UInt64} :
    word64 v = .ok n ↔ v = Json.ofInt n.toNat := by
  apply map_integer_eq_ok_iff fun n : UInt64 => (n.toNat : Int)
  · intro n
    have small := n.toNat_lt
    simp only [unsigned64]
    omega
  · intro n
    have small := n.toNat_lt
    unfold Number.Fits
    omega
  · intro n
    rw [Int.toNat_natCast, UInt64.ofNat_toNat]
  · intro i low high
    simp only [unsigned64] at low high
    rw [UInt64.toNat_ofNat']
    omega

section Entries

variable {σ : Type} {decode : σ → Decoded α} {name : String} {s : σ}
  {rest : List (String × σ)}

theorem under_eq_ok_iff {result : Decoded α} {x : α} :
    under name result = .ok x ↔ result = .ok x := by
  cases result with
  | ok y => rfl
  | error e =>
      constructor
      · intro read
        cases read
      · intro read
        cases read

/-- Entries are read if the first one is and the others are. -/
theorem entries_cons_eq_ok_iff {xs : List (String × α)} :
    entries decode ((name, s) :: rest) = .ok xs ↔
      ∃ x, decode s = .ok x ∧ ∃ others, entries decode rest = .ok others ∧
        (name, x) :: others = xs := by
  simp only [entries, bind_eq_ok_iff, under_eq_ok_iff, pure, Except.pure, Except.ok.injEq]

end Entries

end Decode

namespace Field

variable {σ ρ α β : Type}

@[simp] theorem name_required (name : String) (decode : σ → Decoded α) (write : α → ρ → ρ) :
    (required name decode write).name = name := rfl

@[simp] theorem name_defaulted (name : String) (decode : σ → Decoded α) (write : α → ρ → ρ) :
    (defaulted name decode write).name = name := rfl

/-- Writing the field changes nothing of what is seen of the record. -/
def Spares (f : Field σ ρ) (view : ρ → α) : Prop :=
  ∀ {s : σ} {write : ρ → ρ}, f.read s = .ok write → ∀ r, view (write r) = view r

/-- Writing the field leaves a property of the record true. -/
def Keeps (f : Field σ ρ) (P : ρ → Prop) : Prop :=
  ∀ {s : σ} {write : ρ → ρ}, f.read s = .ok write → ∀ r, P r → P (write r)

/-- A field is read by decoding a value and writing that. -/
theorem read_eq_ok_iff {f : Field σ ρ} {decode : σ → Decoded β} {write : β → ρ → ρ}
    (reads : f.read = fun s => (decode s).map write) {s : σ} {change : ρ → ρ} :
    f.read s = .ok change ↔ ∃ x, decode s = .ok x ∧ write x = change := by
  rw [reads]
  cases decoded : decode s <;> simp [Except.map, decoded]

/-- A field can be read from what is found under its name, or be left out if nothing is. -/
def Fits (f : Field σ ρ) (found : Option σ) : Prop :=
  (∀ s, found = some s → ∃ write, f.read s = .ok write) ∧ (found = none → f.optional = true)

theorem fits_required {name : String} {decode : σ → Decoded β} {write : β → ρ → ρ}
    {found : Option σ} {s : σ} {x : β} (present : found = some s) (decoded : decode s = .ok x) :
    (required name decode write).Fits found := by
  subst present
  refine ⟨?_, fun absent => by cases absent⟩
  rintro _ ⟨⟩
  exact ⟨write x, (read_eq_ok_iff rfl).mpr ⟨x, decoded, rfl⟩⟩

theorem fits_defaulted {name : String} {decode : σ → Decoded β} {write : β → ρ → ρ}
    {found : Option σ} (decoded : ∀ s, found = some s → ∃ x, decode s = .ok x) :
    (defaulted name decode write).Fits found := by
  refine ⟨?_, fun _ => rfl⟩
  intro s present
  obtain ⟨x, reads⟩ := decoded s present
  exact ⟨write x, (read_eq_ok_iff rfl).mpr ⟨x, reads, rfl⟩⟩

/-- Writing a field spares what writing its values spares. -/
theorem spares_of_read {f : Field σ ρ} {view : ρ → α} {decode : σ → Decoded β} {write : β → ρ → ρ}
    (reads : f.read = fun s => (decode s).map write)
    (untouched : ∀ x r, view (write x r) = view r) : f.Spares view := by
  intro s change read r
  obtain ⟨x, _, rfl⟩ := (read_eq_ok_iff reads).mp read
  exact untouched x r

@[simp] theorem spares_required {view : ρ → α} {name : String} {decode : σ → Decoded β}
    {write : β → ρ → ρ} (untouched : ∀ x r, view (write x r) = view r) :
    (required name decode write).Spares view := spares_of_read rfl untouched

@[simp] theorem spares_defaulted {view : ρ → α} {name : String} {decode : σ → Decoded β}
    {write : β → ρ → ρ} (untouched : ∀ x r, view (write x r) = view r) :
    (defaulted name decode write).Spares view := spares_of_read rfl untouched

/-- Writing a field keeps what writing its values keeps. -/
theorem keeps_of_read {f : Field σ ρ} {P : ρ → Prop} {decode : σ → Decoded β} {write : β → ρ → ρ}
    (reads : f.read = fun s => (decode s).map write)
    (kept : ∀ s x r, decode s = .ok x → P r → P (write x r)) : f.Keeps P := by
  intro s change read r before
  obtain ⟨x, decoded, rfl⟩ := (read_eq_ok_iff reads).mp read
  exact kept s x r decoded before

theorem keeps_required {P : ρ → Prop} {name : String} {decode : σ → Decoded β}
    {write : β → ρ → ρ} (kept : ∀ s x r, decode s = .ok x → P r → P (write x r)) :
    (required name decode write).Keeps P := keeps_of_read rfl kept

theorem keeps_defaulted {P : ρ → Prop} {name : String} {decode : σ → Decoded β}
    {write : β → ρ → ρ} (kept : ∀ s x r, decode s = .ok x → P r → P (write x r)) :
    (defaulted name decode write).Keeps P := keeps_of_read rfl kept

end Field

namespace Record

variable {σ ρ α β : Type}

/-- What is seen of a record is what the field of a name was decoded to; no other field has a part
in it. -/
structure Holds (shape : Record σ ρ) (name : String) (decode : σ → Decoded α) (view : ρ → α) :
    Prop where
  own : ∃ f, shape.fields.find? (·.name == name) = some f ∧
    ∀ {s : σ} {write : ρ → ρ}, f.read s = .ok write →
      ∃ x, decode s = .ok x ∧ ∀ r, view (write r) = x
  others : ∀ f ∈ shape.fields, f.name ≠ name → f.Spares view

variable {shape : Record σ ρ} {name : String} {decode : σ → Decoded α} {view : ρ → α}

/-- A field whose value is written where it is seen. -/
theorem holds_of_write {f : Field σ ρ} {w : α → ρ → ρ}
    (found : shape.fields.find? (·.name == name) = some f)
    (reads : f.read = fun s => (decode s).map w) (written : ∀ x r, view (w x r) = x)
    (others : ∀ f ∈ shape.fields, f.name ≠ name → f.Spares view) :
    shape.Holds name decode view where
  own := by
    refine ⟨f, found, ?_⟩
    intro s change read
    obtain ⟨x, decoded, rfl⟩ := (Field.read_eq_ok_iff reads).mp read
    exact ⟨x, decoded, written x⟩
  others := others

/-- An entry under a known name is read once; the others are passed over. -/
theorem readEntries_cons {s : σ} {rest : List (String × σ)} {seen : List String} {r result : ρ}
    (read : shape.readEntries ((name, s) :: rest) seen r = .ok result) :
    (shape.fields.find? (·.name == name) = none ∧ shape.readEntries rest seen r = .ok result) ∨
    ∃ f write, shape.fields.find? (·.name == name) = some f ∧ name ∉ seen ∧
      f.read s = .ok write ∧ shape.readEntries rest (name :: seen) (write r) = .ok result := by
  unfold readEntries at read
  cases known : shape.fields.find? (·.name == name) with
  | none =>
      rw [known] at read
      exact Or.inl ⟨rfl, read⟩
  | some f =>
      right
      simp only [known] at read
      split at read
      · cases read
      · rename_i unseen
        cases outcome : f.read s with
        | error e =>
            rw [outcome] at read
            cases read
        | ok write =>
            rw [outcome] at read
            exact ⟨f, write, rfl, by simpa using unseen, outcome, read⟩

/-- A record that is not given by position is given by an object. -/
theorem exists_fields_of_decode {shape : Record Json ρ} {v : Json} {r : ρ}
    (byName : ∀ items, v ≠ .array items) (decoded : shape.decode v = .ok r) :
    ∃ fields, v = .object fields := by
  cases v with
  | object fields => exact ⟨fields, rfl⟩
  | array items => exact absurd rfl (byName items)
  | number n => cases n <;> cases decoded
  | _ => cases decoded

/-- A record is not read to its end unless every field that must be present was seen or is there. -/
theorem exists_of_required {f : Field σ ρ} (listed : f ∈ shape.fields)
    (needed : f.optional = false) {entries : List (String × σ)} {seen : List String}
    {r result : ρ} (read : shape.readEntries entries seen r = .ok result) :
    f.name ∈ seen ∨ ∃ s, Fields.find? f.name entries = some s := by
  induction entries generalizing seen r with
  | nil =>
      unfold readEntries at read
      split at read
      · cases read
      · rename_i nothing
        simp only [missing?, Option.map_eq_none_iff, List.find?_eq_none] at nothing
        left
        simpa [needed] using nothing f listed
  | cons entry rest inductionHypothesis =>
      obtain ⟨other, s⟩ := entry
      rw [Fields.find?_cons]
      by_cases same : f.name = other
      · rw [if_pos same]
        exact Or.inr ⟨s, rfl⟩
      · rw [if_neg same]
        rcases readEntries_cons read with ⟨_, later⟩ | ⟨g, write, _, _, _, later⟩
        · exact inductionHypothesis later
        · exact (inductionHypothesis later).imp_left fun member =>
            (List.mem_cons.mp member).resolve_left same

namespace Holds

/-- What was read once is not read again. -/
theorem of_seen (holds : shape.Holds name decode view) {entries : List (String × σ)}
    {seen : List String} {r result : ρ} (known : name ∈ seen)
    (read : shape.readEntries entries seen r = .ok result) : view result = view r := by
  induction entries generalizing seen r with
  | nil =>
      unfold readEntries at read
      split at read
      · cases read
      · cases read
        rfl
  | cons entry rest inductionHypothesis =>
      obtain ⟨other, s⟩ := entry
      rcases readEntries_cons read with ⟨_, later⟩ | ⟨f, write, found, unseen, readOne, later⟩
      · exact inductionHypothesis known later
      · have differs : f.name ≠ name := by
          intro same
          have named : f.name = other := by simpa using List.find?_some found
          exact unseen (named.symm.trans same ▸ known)
        calc view result = view (write r) :=
              inductionHypothesis (List.mem_cons_of_mem _ known) later
          _ = view r := holds.others f (List.mem_of_find?_eq_some found) differs readOne r

/-- Reading entries, what is seen is decoded from the first entry under the name, if there is one,
and stays as it was otherwise. -/
theorem of_readEntries (holds : shape.Holds name decode view) {entries : List (String × σ)}
    {seen : List String} {r result : ρ}
    (read : shape.readEntries entries seen r = .ok result) :
    (∀ s, Fields.find? name entries = some s → decode s = .ok (view result)) ∧
      (Fields.find? name entries = none → view result = view r) := by
  induction entries generalizing seen r with
  | nil =>
      unfold readEntries at read
      split at read
      · cases read
      · cases read
        exact ⟨fun s found => absurd found (by simp), fun _ => rfl⟩
  | cons entry rest inductionHypothesis =>
      obtain ⟨other, s⟩ := entry
      obtain ⟨own, ownFound, ownReads⟩ := holds.own
      rw [Fields.find?_cons]
      rcases readEntries_cons read with ⟨unknown, later⟩ | ⟨f, write, found, _, readOne, later⟩
      · have differs : name ≠ other := by
          rintro rfl
          rw [ownFound] at unknown
          cases unknown
        rw [if_neg differs]
        exact inductionHypothesis later
      · by_cases same : name = other
        · subst same
          rw [ownFound] at found
          cases found
          obtain ⟨x, decoded, written⟩ := ownReads readOne
          have kept := holds.of_seen List.mem_cons_self later
          rw [if_pos rfl]
          refine ⟨?_, fun absent => by cases absent⟩
          rintro _ ⟨⟩
          rw [kept, written]
          exact decoded
        · have named : f.name = other := by simpa using List.find?_some found
          have spared := holds.others f (List.mem_of_find?_eq_some found)
            (fun equal => same (equal.symm.trans named)) readOne r
          rw [if_neg same, ← spared]
          exact inductionHypothesis later

variable {shape : Record Json ρ} {decode : Json → Decoded α} {r : ρ}

/-- What is seen of a record that was decoded from an object is decoded from the value under the
name, and is that of the blank record if there is none. -/
theorem of_decode (holds : shape.Holds name decode view) {fields : Fields Json}
    (decoded : shape.decode (Json.object fields) = .ok r) :
    (∀ v, Fields.find? name fields = some v → decode v = .ok (view r)) ∧
      (Fields.find? name fields = none → view r = view shape.blank) :=
  holds.of_readEntries decoded

/-- What is seen of a field that must be present is decoded from the value under its name. -/
theorem of_required (holds : shape.Holds name decode view) {f : Field Json ρ}
    (listed : f ∈ shape.fields) (needed : f.optional = false) (named : f.name = name)
    {fields : Fields Json} (decoded : shape.decode (Json.object fields) = .ok r) :
    ∃ v, Fields.find? name fields = some v ∧ decode v = .ok (view r) := by
  rcases exists_of_required listed needed decoded with seen | ⟨v, found⟩
  · cases seen
  · rw [named] at found
    exact ⟨v, found, (holds.of_decode decoded).1 v found⟩

/-- What is seen of a field that must be present is decoded from the value under its name, if the
record is not given by position. -/
theorem get?_of_needed (holds : shape.Holds name decode view)
    (needed : (shape.fields.find? (·.name == name)).map Field.optional = some false) {v : Json}
    (byName : ∀ items, v ≠ .array items) (decoded : shape.decode v = .ok r) :
    ∃ w, v.get? name = some w ∧ decode w = .ok (view r) := by
  obtain ⟨f, found, dispensable⟩ := Option.map_eq_some_iff.mp needed
  have named : f.name = name := by simpa using List.find?_some found
  obtain ⟨fields, rfl⟩ := exists_fields_of_decode byName decoded
  exact holds.of_required (List.mem_of_find?_eq_some found) dispensable named decoded

theorem of_get? (holds : shape.Holds name decode view) {v w : Json}
    (decoded : shape.decode v = .ok r) (found : v.get? name = some w) :
    decode w = .ok (view r) := by
  cases v with
  | object fields => exact (holds.of_decode decoded).1 w found
  | _ => cases found

/-- A field that may be left out or be null, read back from what was written. -/
theorem of_optional {view : ρ → Option α}
    (holds : shape.Holds name (Decode.optional decode) view) (blank : view shape.blank = none)
    {encode : β → Json} {back : β → α} (reads : ∀ x, decode (encode x) = .ok (back x))
    {fields : Fields Json} (decoded : shape.decode (Json.object fields) = .ok r) {o : Option β}
    (written : Fields.find? name fields = o.map encode) :
    view r = (o.filter fun x => !(encode x).isNull).map back := by
  have law := holds.of_decode decoded
  rw [written] at law
  cases o with
  | none => exact (law.2 rfl).trans blank
  | some x =>
      have value := law.1 (encode x) rfl
      rw [Decode.optional_json, reads] at value
      cases null : (encode x).isNull with
      | true =>
          rw [null, if_pos rfl] at value
          rw [← Except.ok.inj value, Option.filter_some, null]
          rfl
      | false =>
          rw [null, if_neg Bool.false_ne_true] at value
          have same : some (back x) = view r := Except.ok.inj value
          rw [← same, Option.filter_some, null]
          rfl

/-- A field that may be left out or be null holds what stands under its name, unless that is null.
-/
theorem map_of_optional {view : ρ → Option α}
    (holds : shape.Holds name (Decode.optional decode) view) (blank : view shape.blank = none)
    {encode : α → Json} (written : ∀ {v x}, decode v = .ok x → v = encode x) {fields : Fields Json}
    (decoded : shape.decode (Json.object fields) = .ok r) :
    (view r).map encode = (Fields.find? name fields).filter (!·.isNull) := by
  have law := holds.of_decode decoded
  cases found : Fields.find? name fields with
  | none =>
      rw [(law.2 found).trans blank]
      rfl
  | some v =>
      have value := law.1 v found
      rw [Decode.optional_json] at value
      rw [Option.filter_some]
      cases null : v.isNull with
      | true =>
          rw [null, if_pos rfl] at value
          rw [← Except.ok.inj value]
          rfl
      | false =>
          rw [null, if_neg Bool.false_ne_true] at value
          cases outcome : decode v with
          | error e =>
              rw [outcome] at value
              cases value
          | ok x =>
              rw [outcome] at value
              have same : some x = view r := Except.ok.inj value
              rw [← same, written outcome]
              rfl

theorem of_optional_any {view : ρ → Option Json}
    (holds : shape.Holds name (Decode.optional Decode.any) view) (blank : view shape.blank = none)
    {fields : Fields Json} (decoded : shape.decode (Json.object fields) = .ok r) :
    view r = (Fields.find? name fields).filter (!·.isNull) := by
  rw [holds.of_optional blank Decode.any_json decoded Option.map_id'.symm, Option.map_id']

end Holds

/-! ### What every field keeps -/

section Keeps

variable {P : ρ → Prop}

theorem readEntries_keeps (keeps : ∀ f ∈ shape.fields, f.Keeps P) {entries : List (String × σ)}
    {seen : List String} {r result : ρ} (start : P r)
    (read : shape.readEntries entries seen r = .ok result) : P result := by
  induction entries generalizing seen r with
  | nil =>
      unfold readEntries at read
      split at read
      · cases read
      · cases read
        exact start
  | cons entry rest inductionHypothesis =>
      obtain ⟨other, s⟩ := entry
      rcases readEntries_cons read with ⟨_, later⟩ | ⟨f, write, found, _, readOne, later⟩
      · exact inductionHypothesis start later
      · apply inductionHypothesis _ later
        exact keeps f (List.mem_of_find?_eq_some found) readOne r start

variable [Source σ]

theorem readItems_keeps {length position : Nat} {fields : List (Field σ ρ)}
    (keeps : ∀ f ∈ fields, f.Keeps P) {items : List σ} {r result : ρ} (start : P r)
    (read : shape.readItems length fields position items r = .ok result) : P result := by
  induction fields generalizing position items r with
  | nil =>
      unfold readItems at read
      split at read
      · cases read
      · cases read
        exact start
  | cons f rest inductionHypothesis =>
      have restKeeps : ∀ g ∈ rest, g.Keeps P := fun g member =>
        keeps g (List.mem_cons_of_mem f member)
      cases items with
      | nil =>
          unfold readItems at read
          split at read
          · exact inductionHypothesis restKeeps start read
          · cases read
      | cons s later =>
          unfold readItems at read
          cases outcome : f.read s with
          | error e =>
              rw [outcome] at read
              cases read
          | ok write =>
              rw [outcome] at read
              exact inductionHypothesis restKeeps (keeps f List.mem_cons_self outcome r start) read

/-- What is true of the blank record, and stays true as each field is written, is true of every
record that was decoded. -/
theorem decode_keeps (keeps : ∀ f ∈ shape.fields, f.Keeps P) (start : P shape.blank) {s : σ}
    {r : ρ} (decoded : shape.decode s = .ok r) : P r := by
  unfold decode at decoded
  split at decoded
  · exact readEntries_keeps keeps start decoded
  · split at decoded
    · exact readItems_keeps keeps start decoded
    · cases decoded
  · cases decoded

end Keeps

/-! ### Objects that can be decoded -/

/-- Entries under different names, none of them seen before, are read if each one can be. -/
theorem exists_readEntries {entries : List (String × σ)} {seen : List String} (r : ρ)
    (distinct : (entries.map Prod.fst).Nodup)
    (unseen : ∀ entry ∈ entries, entry.1 ∉ seen)
    (readable : ∀ entry ∈ entries, ∀ f ∈ shape.fields, f.name = entry.1 →
      ∃ write, f.read entry.2 = .ok write)
    (complete : ∀ f ∈ shape.fields, f.optional = false →
      f.name ∈ seen ∨ f.name ∈ entries.map Prod.fst) :
    ∃ result, shape.readEntries entries seen r = .ok result := by
  induction entries generalizing seen r with
  | nil =>
      have nothing : shape.missing? seen = none := by
        simp only [missing?, Option.map_eq_none_iff, List.find?_eq_none]
        intro f member
        cases needed : f.optional with
        | true => simp
        | false => simpa using complete f member needed
      exact ⟨r, by simp [readEntries, nothing]⟩
  | cons entry rest inductionHypothesis =>
      obtain ⟨other, s⟩ := entry
      have notAgain : other ∉ rest.map Prod.fst := (List.nodup_cons.mp distinct).1
      have laterReadable := fun entry member =>
        readable entry (List.mem_cons_of_mem (other, s) member)
      cases known : shape.fields.find? (·.name == other) with
      | none =>
          have elsewhere : ∀ f ∈ shape.fields, f.name ≠ other := by
            simpa using List.find?_eq_none.mp known
          obtain ⟨result, read⟩ : ∃ result, shape.readEntries rest seen r = .ok result :=
            inductionHypothesis r (List.nodup_cons.mp distinct).2
            (fun entry member => unseen entry (List.mem_cons_of_mem _ member)) laterReadable
            (fun f member needed => (complete f member needed).imp_right fun named =>
              (List.mem_cons.mp named).resolve_left (elsewhere f member))
          exact ⟨result, by simp [readEntries, known, read]⟩
      | some f =>
          have named : f.name = other := by simpa using List.find?_some known
          have fresh : other ∉ seen := unseen (other, s) List.mem_cons_self
          obtain ⟨write, readOne⟩ := readable (other, s) List.mem_cons_self f
            (List.mem_of_find?_eq_some known) named
          obtain ⟨result, read⟩ :
              ∃ result, shape.readEntries rest (other :: seen) (write r) = .ok result :=
            inductionHypothesis (write r) (List.nodup_cons.mp distinct).2
            (by
              intro entry member
              rw [List.mem_cons, not_or]
              refine ⟨?_, unseen entry (List.mem_cons_of_mem _ member)⟩
              rintro rfl
              exact notAgain (List.mem_map_of_mem member))
            laterReadable
            (by
              intro g member needed
              rcases complete g member needed with before | now
              · exact Or.inl (List.mem_cons_of_mem _ before)
              · rcases List.mem_cons.mp now with here | later
                · exact Or.inl (List.mem_cons.mpr (Or.inl here))
                · exact Or.inr later)
          refine ⟨result, ?_⟩
          simp only [readEntries, known, List.contains_iff_mem, fresh, if_false, readOne]
          exact read

/-- An object in order is decoded if for each field the value under its name can be read, or there
is none and the field may be left out. -/
theorem exists_decode {shape : Record Json ρ} {fields : Fields Json} (sorted : fields.Sorted)
    (readable : ∀ f ∈ shape.fields, f.Fits (Fields.find? f.name fields)) :
    ∃ r, shape.decode (Json.object fields) = .ok r := by
  have distinct : (fields.map Prod.fst).Nodup :=
    List.Pairwise.imp (fun below => String.ne_of_lt below) sorted
  apply exists_readEntries shape.blank distinct
  · intro entry _ seen
    cases seen
  · intro entry member f known named
    exact (readable f known).1 entry.2 (named ▸ sorted.find?_of_mem member)
  · intro f known needed
    right
    cases found : Fields.find? f.name fields with
    | none =>
        have dispensable := (readable f known).2 found
        rw [needed] at dispensable
        cases dispensable
    | some v => exact List.mem_map_of_mem (Fields.mem_of_find? found)

end Record
end EventDispatch
