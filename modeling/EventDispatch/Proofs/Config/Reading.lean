import EventDispatch.Proofs.Config.Merge
/-!
Documents that are read.

Purpose: whatever text they are given, the program's readers of files and of variables write the
names of a mapping in ascending order, each once, and what stands in a file is a mapping as a whole.
Nothing more is asked of other readers.

Main exports: `Toml.orderly_document?`, `Yaml.orderly_mapping?`, `Inline.orderly_document`,
`Environment.orderly_document`, `Readers.Orderly`, `Readers.orderly_standard`.
-/

namespace EventDispatch

/-! ### TOML -/

namespace Toml

/-- An entry whose document will be orderly. -/
inductive Entry.Orderly : Entry → Prop where
  | value {d : Document} (orderly : d.Orderly) : Orderly (.value d)
  | table {origin : Origin} {entries : Fields Entry} (sorted : entries.Sorted)
      (below : ∀ entry ∈ entries, Orderly entry.2) : Orderly (.table origin entries)
  | tables {newest : Fields Entry} {older : List (Fields Entry)} : Orderly (.tables newest older)

/-- Entries in the order of their names, each of them orderly. -/
structure Settled (entries : Fields Entry) : Prop where
  sorted : entries.Sorted
  each : ∀ entry ∈ entries, entry.2.Orderly

/-- A statement that assigns an orderly document, if any. -/
def Statement.Orderly : Statement → Prop
  | .assignment _ d => d.Orderly
  | _ => True

variable {entries after : Fields Entry} {name : String} {d : Document} {rest cs : List Char}

namespace Settled

theorem nil : Settled [] := ⟨.nil, by simp⟩

theorem insert (settled : Settled entries) {e : Entry} (orderly : e.Orderly) :
    Settled (entries.insert name e) where
  sorted := settled.sorted.insert name e
  each := by
    intro entry member
    rcases Fields.mem_insert member with rfl | old
    · exact orderly
    · exact settled.each entry old

/-- The entries of a table that stands among settled ones are settled. -/
theorem below (settled : Settled entries) {origin : Origin} {inner : Fields Entry}
    (found : entries.find? name = some (.table origin inner)) : Settled inner := by
  cases settled.each _ (Fields.mem_of_find? found) with
  | table sorted below => exact ⟨sorted, below⟩

theorem table (settled : Settled entries) (origin : Origin) :
    Entry.Orderly (.table origin entries) := .table settled.sorted settled.each

/-- A change below a path settles what it is made in, if it settles what it changes. -/
theorem modify {origin : Origin} {change : Fields Entry → Option (Fields Entry)}
    (changes : ∀ entries after, Settled entries → change entries = some after → Settled after)
    (settled : Settled entries) {path : List String}
    (modified : modify origin change path entries = some after) : Settled after := by
  induction path generalizing entries after with
  | nil => exact changes _ _ settled modified
  | cons name path inductionHypothesis =>
      unfold Toml.modify at modified
      split at modified
      · obtain ⟨inner, changed, rfl⟩ := Option.map_eq_some_iff.mp modified
        exact settled.insert ((inductionHypothesis nil changed).table origin)
      · rename_i given inner found
        split at modified
        · cases modified
        · obtain ⟨changedInner, changed, rfl⟩ := Option.map_eq_some_iff.mp modified
          exact settled.insert ((inductionHypothesis (settled.below found) changed).table given)
      · split at modified
        · cases modified
        · obtain ⟨newest, _, rfl⟩ := Option.map_eq_some_iff.mp modified
          exact settled.insert .tables
      · cases modified

theorem openTable (settled : Settled entries) (opened : openTable name entries = some after) :
    Settled after := by
  unfold Toml.openTable at opened
  split at opened
  · cases opened
    exact settled.insert (nil.table _)
  · rename_i found
    cases opened
    exact settled.insert ((settled.below found).table _)
  · cases opened

theorem openNext (settled : Settled entries) (opened : openNext name entries = some after) :
    Settled after := by
  unfold Toml.openNext at opened
  split at opened
  · cases opened
    exact settled.insert .tables
  · cases opened
    exact settled.insert .tables
  · cases opened

theorem assign (settled : Settled entries) (orderly : d.Orderly)
    (assigned : assign name d entries = some after) : Settled after := by
  unfold Toml.assign at assigned
  split at assigned
  · cases assigned
    exact settled.insert (.value orderly)
  · cases assigned

theorem execute {header header' : List String} {s : Statement} (settled : Settled entries)
    (orderly : s.Orderly) (executed : execute header entries s = some (header', after)) :
    Settled after := by
  cases s with
  | header path =>
      simp only [Toml.execute, Option.bind_eq_bind, Option.pure_def, Option.bind_eq_some_iff]
        at executed
      obtain ⟨⟨front, last⟩, _, changed, made, same⟩ := executed
      cases same
      exact settled.modify (fun _ _ => openTable) made
  | listHeader path =>
      simp only [Toml.execute, Option.bind_eq_bind, Option.pure_def, Option.bind_eq_some_iff]
        at executed
      obtain ⟨⟨front, last⟩, _, changed, made, same⟩ := executed
      cases same
      exact settled.modify (fun _ _ => openNext) made
  | assignment path value =>
      simp only [Toml.execute, Option.bind_eq_bind, Option.pure_def, Option.bind_eq_some_iff]
        at executed
      obtain ⟨⟨front, last⟩, _, changed, made, same⟩ := executed
      cases same
      refine settled.modify (fun _ _ inner => inner.modify fun _ _ innermost => ?_) made
      exact innermost.assign orderly

theorem executeAll {header : List String} {statements : List Statement} (settled : Settled entries)
    (orderly : ∀ s ∈ statements, s.Orderly)
    (executed : executeAll header entries statements = some after) : Settled after := by
  induction statements generalizing header entries with
  | nil =>
      cases executed
      exact settled
  | cons s rest inductionHypothesis =>
      obtain ⟨here, later⟩ := List.forall_mem_cons.mp orderly
      simp only [Toml.executeAll, Option.bind_eq_bind, Option.bind_eq_some_iff] at executed
      obtain ⟨⟨header', next⟩, first, others⟩ := executed
      exact inductionHypothesis (settled.execute here first) later others

end Settled

theorem documents_eq_map (entries : Fields Entry) :
    documents entries = entries.map fun entry => (entry.1, entry.2.document) := by
  induction entries with
  | nil => rfl
  | cons first rest inductionHypothesis => rw [documents, inductionHypothesis, List.map_cons]

private theorem orderly_documents (sorted : entries.Sorted)
    (each : ∀ entry ∈ entries, entry.2.document.Orderly) :
    Document.Orderly (.mapping (documents entries)) := by
  rw [documents_eq_map]
  apply Document.Orderly.mapping
  · simpa [Fields.Sorted, Fields.names, Function.comp_def] using sorted
  · intro entry member
    obtain ⟨own, there, rfl⟩ := List.mem_map.mp member
    exact each own there

theorem Entry.Orderly.document {e : Entry} (orderly : e.Orderly) : e.document.Orderly := by
  induction orderly with
  | value orderly => exact orderly
  | table sorted _ inductionHypothesis => exact orderly_documents sorted inductionHypothesis
  | tables => exact .leaf rfl

/-- Statements make an orderly mapping, if they do not contradict each other. -/
theorem orderly_assemble {statements : List Statement} (orderly : ∀ s ∈ statements, s.Orderly)
    (assembled : assemble statements = some d) : d.Orderly ∧ d.isMapping = true := by
  obtain ⟨entries, executed, rfl⟩ := Option.map_eq_some_iff.mp assembled
  have settled := Settled.nil.executeAll orderly executed
  exact ⟨orderly_documents settled.sorted fun entry member => (settled.each entry member).document,
    rfl⟩

theorem plain_signed {i : Int} (fits : signed i = some d) : d.isMapping = false := by
  unfold signed at fits
  split at fits
  · cases fits
    rfl
  · cases fits

theorem plain_integer? {word : List Char} (read : integer? word = some d) :
    d.isMapping = false := by
  unfold integer? at read
  split at read <;>
    · obtain ⟨n, _, fits⟩ := Option.bind_eq_some_iff.mp read
      exact plain_signed fits

theorem plain_numeral (x : Option Double) : (Numeral.document x).isMapping = false := by
  cases x <;> rfl

theorem plain_real? {word : List Char} (read : real? word = some d) : d.isMapping = false := by
  unfold real? at read
  simp only [Option.bind_eq_bind] at read
  obtain ⟨whole, _, read⟩ := Option.bind_eq_some_iff.mp read
  split at read <;>
    · obtain ⟨⟨fraction, rest⟩, _, read⟩ := Option.bind_eq_some_iff.mp read
      split at read <;>
        · obtain ⟨exponent, _, read⟩ := Option.bind_eq_some_iff.mp read
          split at read
          · cases read
          · obtain ⟨x, _, rfl⟩ := Option.map_eq_some_iff.mp read
            exact plain_numeral x

/-- A word is no mapping. -/
theorem plain_word? (read : word? cs = some d) : d.isMapping = false := by
  unfold word? at read
  dsimp only at read
  split at read
  · cases read
    rfl
  split at read
  · cases read
    rfl
  split at read
  · cases read
    rfl
  · rcases Option.or_eq_some_iff.mp read with integer | ⟨_, real⟩
    · exact plain_integer? integer
    · exact plain_real? real

/-- What values, mappings in braces and assignments are read as, to some depth. -/
structure ReadsOrderly (fuel : Nat) : Prop where
  value : ∀ {cs d rest}, Toml.value fuel cs = some (d, rest) → d.Orderly
  pairs : ∀ {cs statements rest}, Toml.pairs fuel cs = some (statements, rest) →
    ∀ s ∈ statements, s.Orderly
  assignment : ∀ {cs s rest}, Toml.assignment fuel cs = some (s, rest) → s.Orderly

theorem readsOrderly (fuel : Nat) : ReadsOrderly fuel := by
  induction fuel with
  | zero => constructor <;> simp [Toml.value, Toml.pairs, Toml.assignment]
  | succ fuel inductionHypothesis =>
      constructor
      case value =>
        intro cs d rest read
        unfold Toml.value at read
        split at read
        · obtain ⟨⟨xs, more⟩, _, same⟩ := Option.map_eq_some_iff.mp read
          cases same
          exact .leaf rfl
        · split at read
          · obtain ⟨⟨ds, more⟩, _, same⟩ := Option.map_eq_some_iff.mp read
            cases same
            exact .leaf rfl
          · simp only [Option.bind_eq_bind, Option.bind_some] at read
            split at read
            · obtain ⟨d, assembled, same⟩ := Option.bind_eq_some_iff.mp read
              cases same
              exact (orderly_assemble (by simp) assembled).1
            · obtain ⟨⟨statements, more⟩, inner, read⟩ := Option.bind_eq_some_iff.mp read
              obtain ⟨d, assembled, same⟩ := Option.bind_eq_some_iff.mp read
              cases same
              exact (orderly_assemble (inductionHypothesis.pairs inner) assembled).1
          · obtain ⟨own, word, same⟩ := Option.map_eq_some_iff.mp read
            cases same
            exact .leaf (plain_word? word)
      case pairs =>
        intro cs statements rest read
        unfold Toml.pairs at read
        simp only [Option.bind_eq_bind, Option.bind_eq_some_iff, Option.pure_def] at read
        obtain ⟨⟨s, more⟩, first, read⟩ := read
        have here := inductionHypothesis.assignment first
        split at read
        · obtain ⟨⟨others, more⟩, later, same⟩ := Option.bind_eq_some_iff.mp read
          cases same
          exact List.forall_mem_cons.mpr ⟨here, inductionHypothesis.pairs later⟩
        · cases read
          simpa using here
        · cases read
      case assignment =>
        intro cs s rest read
        unfold Toml.assignment at read
        simp only [Option.bind_eq_bind, Option.bind_eq_some_iff] at read
        obtain ⟨⟨name, more⟩, _, read⟩ := read
        split at read
        · obtain ⟨⟨d, more⟩, inner, same⟩ := Option.bind_eq_some_iff.mp read
          cases same
          exact inductionHypothesis.value inner
        · cases read

theorem orderly_statement {s : Statement} (read : statement cs = some (s, rest)) : s.Orderly := by
  unfold statement at read
  split at read
  · simp only [Option.bind_eq_bind, Option.bind_eq_some_iff] at read
    obtain ⟨⟨name, more⟩, _, read⟩ := read
    split at read
    · cases read
      trivial
    · cases read
  · simp only [Option.bind_eq_bind, Option.bind_eq_some_iff] at read
    obtain ⟨⟨name, more⟩, _, read⟩ := read
    split at read
    · cases read
      trivial
    · cases read
  · exact (readsOrderly _).assignment read

theorem orderly_statements {fuel : Nat} {all : List Statement}
    (read : statements fuel cs = some all) : ∀ s ∈ all, s.Orderly := by
  induction fuel generalizing cs all with
  | zero => cases read
  | succ fuel inductionHypothesis =>
      unfold statements at read
      split at read
      · cases read
        simp
      · simp only [Option.bind_eq_bind, Option.bind_eq_some_iff] at read
        obtain ⟨⟨s, more⟩, first, read⟩ := read
        have here := orderly_statement first
        split at read
        · cases read
          simpa using here
        · obtain ⟨below, _, read⟩ := Option.bind_eq_some_iff.mp read
          obtain ⟨others, later, same⟩ := Option.bind_eq_some_iff.mp read
          cases same
          exact List.forall_mem_cons.mpr ⟨here, inductionHypothesis later⟩

/-- A TOML file holds an orderly mapping. -/
theorem orderly_document? {text : String} (read : document? text = some d) :
    d.Orderly ∧ d.isMapping = true := by
  obtain ⟨all, parts, assembled⟩ := Option.bind_eq_some_iff.mp read
  exact orderly_assemble (orderly_statements parts) assembled

end Toml

/-! ### YAML -/

namespace Yaml

variable {d : Document} {cs rest : List Char} {text : String}

theorem plain_integer? (read : integer? cs = some d) : d.isMapping = false := by
  unfold integer? at read
  split at read <;>
    · obtain ⟨n, _, rfl⟩ := Option.map_eq_some_iff.mp read
      rfl

theorem plain_real? (read : real? cs = some d) : d.isMapping = false := by
  unfold real? at read
  extract_lets digits at read
  split at read
  · cases read
  · obtain ⟨x, _, rfl⟩ := Option.map_eq_some_iff.mp read
    rfl

/-- A plain word is no mapping. -/
theorem plain_plain (text : String) : (plain text).isMapping = false := by
  unfold plain
  split
  · rfl
  split
  · rfl
  split
  · rfl
  · cases read : (integer? text.toList).or (real? text.toList) with
    | none => rfl
    | some d =>
        rcases Option.or_eq_some_iff.mp read with integer | ⟨_, real⟩
        · exact plain_integer? integer
        · exact plain_real? real

/-- A value that is left out is orderly. -/
private theorem orderly_null (d : Document) (more : List Char)
    (given : some (Document.null, cs) = some (d, more)) : d.Orderly := by
  cases given
  exact .leaf rfl

/-- What values in braces and brackets are read as, to some depth. -/
structure FlowsOrderly (fuel : Nat) : Prop where
  flow : ∀ {cs d rest}, Yaml.flow fuel cs = some (d, rest) → d.Orderly
  flowEntries : ∀ {cs fields rest}, Yaml.flowEntries fuel cs = some (fields, rest) →
    ∀ entry ∈ fields, Document.Orderly entry.2

/-- Whatever the value, its entry goes in front of those behind the next comma. -/
private theorem orderly_entries (inner : FlowsOrderly fuel) {own : String}
    {value : Option (Document × List Char)}
    (read : (value.bind fun v => match skipLines v.2.length false v.2 with
      | ',' :: rest => (flowEntries fuel rest).bind fun x => pure ((own, v.1) :: x.1, x.2)
      | '\x7d' :: rest => pure ([(own, v.1)], rest)
      | _ => none) = some (fields, rest))
    (orderly : ∀ d more, value = some (d, more) → d.Orderly) :
    ∀ entry ∈ fields, Document.Orderly entry.2 := by
  obtain ⟨⟨d, more⟩, given, read⟩ := Option.bind_eq_some_iff.mp read
  have here := orderly d more given
  split at read
  · obtain ⟨⟨others, more⟩, later, same⟩ := Option.bind_eq_some_iff.mp read
    cases same
    exact List.forall_mem_cons.mpr ⟨here, inner.flowEntries later⟩
  · cases read
    simpa using here
  · cases read

theorem flowsOrderly (fuel : Nat) : FlowsOrderly fuel := by
  induction fuel with
  | zero => constructor <;> simp [Yaml.flow, Yaml.flowEntries]
  | succ fuel inductionHypothesis =>
      constructor
      case flow =>
        intro cs d rest read
        unfold Yaml.flow at read
        split at read
        · obtain ⟨⟨xs, more⟩, _, same⟩ := Option.map_eq_some_iff.mp read
          cases same
          exact .leaf rfl
        · split at read
          · obtain ⟨⟨ds, more⟩, _, same⟩ := Option.map_eq_some_iff.mp read
            cases same
            exact .leaf rfl
          · obtain ⟨⟨fields, more⟩, inner, same⟩ := Option.map_eq_some_iff.mp read
            cases same
            exact .ofPairs (inductionHypothesis.flowEntries inner)
          · obtain ⟨⟨word, more⟩, _, same⟩ := Option.map_eq_some_iff.mp read
            cases same
            exact .leaf (plain_plain word)
      case flowEntries =>
        intro cs fields rest read
        unfold Yaml.flowEntries at read
        split at read
        · cases read
          simp
        · simp only [Option.bind_eq_bind] at read
          obtain ⟨⟨own, behind⟩, _, read⟩ := Option.bind_eq_some_iff.mp read
          split at read
          · split at read
            · exact orderly_entries inductionHypothesis read orderly_null
            · exact orderly_entries inductionHypothesis read orderly_null
            · exact orderly_entries inductionHypothesis read fun _ _ => inductionHypothesis.flow
          · exact orderly_entries inductionHypothesis read orderly_null

theorem orderly_inline? (read : inline? cs = some (d, rest)) : d.Orderly := by
  simp only [inline?, Option.bind_eq_bind] at read
  split at read
  · split at read
    · obtain ⟨⟨d, behind⟩, value, read⟩ := Option.bind_eq_some_iff.mp read
      obtain ⟨more, _, same⟩ := Option.bind_eq_some_iff.mp read
      cases same
      exact (flowsOrderly _).flow value
    · obtain ⟨⟨d, behind⟩, value, read⟩ := Option.bind_eq_some_iff.mp read
      obtain ⟨more, _, same⟩ := Option.bind_eq_some_iff.mp read
      cases same
      obtain ⟨⟨word, more⟩, _, same⟩ := Option.map_eq_some_iff.mp value
      cases same
      exact .leaf (plain_plain word)
  · cases read

/-- What values laid out by indentation are read as, to some depth. -/
structure BlocksOrderly (fuel : Nat) : Prop where
  block : ∀ {least cs d rest}, Yaml.block fuel least cs = some (d, rest) → d.Orderly
  blockEntries : ∀ {indent cs fields rest}, Yaml.blockEntries fuel indent cs = some (fields, rest) →
    ∀ entry ∈ fields, Document.Orderly entry.2

theorem blocksOrderly (fuel : Nat) : BlocksOrderly fuel := by
  induction fuel with
  | zero => constructor <;> simp [Yaml.block, Yaml.blockEntries]
  | succ fuel inductionHypothesis =>
      constructor
      case block =>
        intro least cs d rest read
        unfold Yaml.block at read
        split at read
        · cases read
          exact .leaf rfl
        · split at read
          · cases read
            exact .leaf rfl
          split at read
          · obtain ⟨⟨ds, more⟩, _, same⟩ := Option.map_eq_some_iff.mp read
            cases same
            exact .leaf rfl
          split at read
          · obtain ⟨⟨fields, more⟩, inner, same⟩ := Option.map_eq_some_iff.mp read
            cases same
            exact .ofPairs (inductionHypothesis.blockEntries inner)
          · exact orderly_inline? read
      case blockEntries =>
        intro indent cs fields rest read
        -- Whatever the value, its entry goes in front of those on the lines below.
        have entry : ∀ {own : String} {value : Option (Document × List Char)},
            (value.bind fun v => (blockEntries fuel indent v.2).bind fun x =>
              pure ((own, v.1) :: x.1, x.2)) = some (fields, rest) →
            (∀ d more, value = some (d, more) → d.Orderly) →
            ∀ entry ∈ fields, Document.Orderly entry.2 := by
          intro own value read orderly
          obtain ⟨⟨d, more⟩, given, read⟩ := Option.bind_eq_some_iff.mp read
          obtain ⟨⟨others, last⟩, later, same⟩ := Option.bind_eq_some_iff.mp read
          cases same
          exact List.forall_mem_cons.mpr ⟨orderly d more given,
            inductionHypothesis.blockEntries later⟩
        unfold Yaml.blockEntries at read
        split at read
        · cases read
          simp
        split at read
        · cases read
          simp
        split at read
        · cases read
        simp only [Option.bind_eq_bind] at read
        obtain ⟨⟨own, behind⟩, _, read⟩ := Option.bind_eq_some_iff.mp read
        split at read
        · split at read
          · split at read
            · exact entry read fun _ _ => inductionHypothesis.block
            split at read
            · apply entry read
              intro d more given
              obtain ⟨⟨ds, more⟩, _, same⟩ := Option.map_eq_some_iff.mp given
              cases same
              exact .leaf rfl
            · exact entry read orderly_null
          · exact entry read orderly_null
        · exact entry read fun _ _ => orderly_inline?

theorem orderly_document? (read : document? text = some d) : d.Orderly := by
  unfold document? at read
  extract_lets whole cs at read
  split at read
  · cases read
  split at read
  · cases read
  · rename_i inner
    have orderly := (blocksOrderly _).block inner
    split at read
    · cases read
      exact orderly
    · cases read
      exact orderly
    · split at read
      · cases read
        exact orderly
      · cases read
    · cases read

/-- A YAML file holds an orderly mapping. -/
theorem orderly_mapping? (read : mapping? text = some d) : d.Orderly ∧ d.isMapping = true := by
  unfold mapping? at read
  split at read
  · rename_i whole
    cases read
    exact ⟨orderly_document? whole, rfl⟩
  · split at read
    · cases read
      exact ⟨.blank, rfl⟩
    · cases read
  · cases read

end Yaml

/-! ### Variables -/

namespace Inline

theorem plain_word (cs : List Char) : (word cs).isMapping = false := by
  unfold word
  dsimp only
  split
  · rename_i x _
    cases x <;> rfl
  split
  · rfl
  split <;> rfl

/-- What values of variables are read as, to some depth. -/
structure ReadsOrderly (fuel : Nat) : Prop where
  value : ∀ {cs d rest}, Inline.value fuel cs = some (d, rest) → d.Orderly
  unspaced : ∀ {cs d rest}, Inline.unspaced fuel cs = some (d, rest) → d.Orderly
  entries : ∀ {cs fields rest}, Inline.entries fuel cs = some (fields, rest) →
    ∀ entry ∈ fields, Document.Orderly entry.2

theorem readsOrderly (fuel : Nat) : ReadsOrderly fuel := by
  induction fuel with
  | zero => constructor <;> simp [Inline.value, Inline.unspaced, Inline.entries]
  | succ fuel inductionHypothesis =>
      constructor
      case value =>
        intro cs d rest read
        obtain ⟨⟨d, more⟩, inner, same⟩ := Option.map_eq_some_iff.mp read
        cases same
        exact inductionHypothesis.unspaced inner
      case unspaced =>
        intro cs d rest read
        unfold Inline.unspaced at read
        split at read
        · cases read
          exact .leaf rfl
        split at read
        · cases read
          exact .leaf rfl
        split at read
        · obtain ⟨⟨fields, more⟩, inner, same⟩ := Option.map_eq_some_iff.mp read
          cases same
          exact .ofPairs (inductionHypothesis.entries inner)
        · obtain ⟨⟨ds, more⟩, _, same⟩ := Option.map_eq_some_iff.mp read
          cases same
          exact .leaf rfl
        · obtain ⟨⟨xs, more⟩, _, same⟩ := Option.map_eq_some_iff.mp read
          cases same
          exact .leaf rfl
        · split at read
          · obtain ⟨rfl, _⟩ := Prod.mk.inj (Option.some.inj read)
            exact .leaf rfl
          · cases read
        · obtain ⟨rfl, _⟩ := Prod.mk.inj (Option.some.inj read)
          exact .leaf (plain_word _)
      case entries =>
        intro cs fields rest read
        unfold Inline.entries at read
        split at read
        · cases read
          simp
        simp only [Option.bind_eq_bind, Option.bind_eq_some_iff] at read
        obtain ⟨⟨own, behind⟩, _, read⟩ := read
        split at read
        · obtain ⟨⟨d, more⟩, inner, read⟩ := Option.bind_eq_some_iff.mp read
          have here := inductionHypothesis.value inner
          split at read
          · obtain ⟨⟨others, more⟩, later, same⟩ := Option.bind_eq_some_iff.mp read
            cases same
            exact List.forall_mem_cons.mpr ⟨here, inductionHypothesis.entries later⟩
          · cases read
            simpa using here
          · cases read
        · cases read

theorem orderly_document (text : String) : (document text).Orderly := by
  unfold document
  dsimp only
  split
  · rename_i read
    exact (readsOrderly _).value read
  · exact .leaf rfl

end Inline

namespace Environment

/-- There is always a step. -/
theorem steps_ne_nil (cs : List Char) : steps cs ≠ [] := by
  unfold steps
  split
  · simp
  · simp
  · split
    · simp
    · split <;> simp

variable {value : String → Document}

/-- A variable sets an orderly mapping, if anything. -/
theorem orderly_entry? (orderly : ∀ text, (value text).Orderly) {name text : String} {d : Document}
    (sets : entry? value name text = some d) : d.Orderly ∧ d.isMapping = true := by
  obtain ⟨path, leads, rfl⟩ := Option.map_eq_some_iff.mp sets
  refine ⟨(orderly text).nested path, ?_⟩
  unfold path? at leads
  split at leads
  · cases leads
  · rename_i rest _
    dsimp only at leads
    split at leads
    · cases leads
    · cases leads
      cases steps' : steps (rest.map Char.toLower) with
      | nil => exact absurd steps' (steps_ne_nil _)
      | cons step more => rfl

/-- Variables together say an orderly mapping. -/
theorem orderly_document (orderly : ∀ text, (value text).Orderly) (environment : Environment) :
    (environment.document value).Orderly ∧ (environment.document value).isMapping = true := by
  have each : ∀ d ∈ environment.filterMap fun given => entry? value given.1 given.2,
      d.Orderly ∧ d.isMapping = true := by
    intro d member
    obtain ⟨_, _, sets⟩ := List.mem_filterMap.mp member
    exact orderly_entry? orderly sets
  exact ⟨Document.Orderly.blank.foldl fun d member => (each d member).1,
    Document.isMapping_foldl rfl fun d member => (each d member).2⟩

end Environment

/-! ### Readers -/

namespace Readers

/-- What is read is in order: the names of every mapping ascend, each once, and a file holds a
mapping. -/
structure Orderly (readers : Readers) : Prop where
  file : ∀ {format : Format} {content : String} {d : Document},
    readers.document? format content = some d → d.Orderly ∧ d.isMapping = true
  value : ∀ text, (readers.value text).Orderly

theorem document?_standard (format : Format) :
    standard.document? format = format.document? := by
  simp only [standard]

theorem value_standard (text : String) :
    standard.value text = Inline.document (Text.trimmed text) := by
  simp only [standard]

/-- The program's own readers read what is in order. -/
theorem orderly_standard : standard.Orderly where
  file := by
    intro format content d means
    rw [document?_standard] at means
    cases format with
    | toml => exact Toml.orderly_document? means
    | yaml => exact Yaml.orderly_mapping? means
  value := by
    intro text
    rw [value_standard]
    exact Inline.orderly_document (Text.trimmed text)

end Readers
end EventDispatch
