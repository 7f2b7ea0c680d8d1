import EventDispatch.Proofs.Config.PathName
import EventDispatch.Proofs.Config.Reading
import EventDispatch.Proofs.Decode.Record
import Mathlib.Data.List.Forall2
/-!
Precedence of layers.

Purpose: which files a configuration is made of, said apart from the search, and what becomes of an
entry that several layers speak of. A later layer is never overridden by an earlier one: what the
last layer to touch a path has there is what the settings are decoded from. Only an entry that an
override hides can come back, when a later override forgets that it was hidden.

Main exports: `Sources.Preferred`, `Sources.Picks`, `Sources.Contributes`, `Sources.stack`,
`Sources.extracted`, `Sources.later_layers_prevail`.
-/

namespace EventDispatch

/-! ### Settings as documents -/

theorem SpanEvents.orderly_toDocument (r : SpanEvents) : r.toDocument.Orderly := by
  apply Document.Orderly.ofPairs
  simp only [List.forall_mem_cons]
  exact ⟨.leaf rfl, .leaf rfl, .leaf rfl, .leaf rfl, by simp⟩

theorem LogSettings.orderly_toDocument (r : LogSettings) : r.toDocument.Orderly := by
  apply Document.Orderly.ofPairs
  simp only [List.forall_mem_cons]
  refine ⟨.leaf rfl, .leaf rfl, .leaf rfl, ?_, .leaf rfl, ?_, r.spanEvents.orderly_toDocument,
    .leaf rfl, .leaf rfl, by simp⟩
  · cases r.filePath <;> exact .leaf rfl
  · apply Document.Orderly.ofPairs
    intro entry member
    obtain ⟨filter, _, rfl⟩ := List.mem_map.mp member
    exact .leaf rfl

/-- Settings make an orderly document if the sections of the adapters are orderly. -/
theorem Settings.orderly_toDocument {r : Settings}
    (sections : ∀ entry ∈ r.adapters, Document.Orderly entry.2) : r.toDocument.Orderly := by
  apply Document.Orderly.ofPairs
  simp only [List.forall_mem_cons]
  refine ⟨r.logging.orderly_toDocument, ?_, .ofPairs sections, by simp⟩
  apply Document.Orderly.ofPairs
  simp only [List.forall_mem_cons]
  exact ⟨.leaf rfl, by simp⟩

theorem Format.ofExtension?_eq_some_iff {extension : String} {format : Format} :
    Format.ofExtension? extension = some format ↔ extension ∈ format.extensions := by
  by_cases toml : extension = "toml"
  · subst toml
    cases format <;> decide
  by_cases yaml : extension = "yaml"
  · subst yaml
    cases format <;> decide
  by_cases yml : extension = "yml"
  · subst yml
    cases format <;> decide
  cases format <;> simp [ofExtension?, all, extensions, toml, yaml, yml]

namespace Sources

variable {s : Sources} {format : Format} {directory stem extension path : String}

/-! ### The files of a format -/

/-- The name under which a file is looked for. -/
def nameIn (directory stem extension : String) : String :=
  PathName.join directory (stem ++ "." ++ extension)

/-- The name of the variant of that file for a profile. -/
def variantIn (profile directory stem extension : String) : String :=
  PathName.withFileName (nameIn directory stem extension)
    (stem ++ "." ++ profile ++ "." ++ extension)

/-- No file of a format is there. -/
def Absent (s : Sources) (format : Format) : Prop :=
  ∀ directory ∈ s.directories, ∀ stem ∈ stems, ∀ extension ∈ format.extensions,
    s.files.isFile (nameIn directory stem extension) = false

/-- A file of a format that is there, in front of all others by directories, then by stems, then by
extensions. -/
structure Preferred (s : Sources) (format : Format) (directory stem extension : String) :
    Prop where
  isFile : s.files.isFile (nameIn directory stem extension) = true
  firstDirectory : ∃ before after, s.directories = before ++ directory :: after ∧
    ∀ other ∈ before, ∀ stem ∈ stems, ∀ extension ∈ format.extensions,
      s.files.isFile (nameIn other stem extension) = false
  firstStem : ∃ before after, stems = before ++ stem :: after ∧
    ∀ other ∈ before, ∀ extension ∈ format.extensions,
      s.files.isFile (nameIn directory other extension) = false
  firstExtension : ∃ before after, format.extensions = before ++ extension :: after ∧
    ∀ other ∈ before, s.files.isFile (nameIn directory stem other) = false

theorem fileOf?_eq (s : Sources) (format : Format) :
    s.fileOf? format = s.directories.findSome? fun directory => stems.findSome? fun stem =>
      (format.extensions.find? fun extension =>
        s.files.isFile (nameIn directory stem extension)).map (nameIn directory stem) := by
  simp only [fileOf?, candidates, List.find?_flatMap, List.find?_map]
  rfl

theorem fileOf?_eq_none_iff : s.fileOf? format = none ↔ s.Absent format := by
  simp [fileOf?_eq, Absent, List.findSome?_eq_none_iff]

/-- The search for a file of a format finds the preferred one. -/
theorem fileOf?_eq_some_iff : s.fileOf? format = some path ↔
    ∃ directory stem extension, s.Preferred format directory stem extension ∧
      nameIn directory stem extension = path := by
  rw [fileOf?_eq, List.findSome?_eq_some_iff]
  constructor
  · rintro ⟨before, directory, after, directories, found, noneBefore⟩
    obtain ⟨passed, stem, rest, stems, found, nonePassed⟩ := List.findSome?_eq_some_iff.mp found
    obtain ⟨extension, first, same⟩ := Option.map_eq_some_iff.mp found
    obtain ⟨isFile, front, back, extensions, noneFront⟩ := List.find?_eq_some_iff_append.mp first
    refine ⟨directory, stem, extension, ⟨isFile, ⟨before, after, directories, ?_⟩,
      ⟨passed, rest, stems, ?_⟩, ⟨front, back, extensions, by simpa using noneFront⟩⟩, same⟩
    · simpa [List.findSome?_eq_none_iff] using noneBefore
    · simpa using nonePassed
  · rintro ⟨directory, stem, extension, preferred, same⟩
    obtain ⟨before, after, directories, noneBefore⟩ := preferred.firstDirectory
    obtain ⟨passed, rest, stems, nonePassed⟩ := preferred.firstStem
    obtain ⟨front, back, extensions, noneFront⟩ := preferred.firstExtension
    refine ⟨before, directory, after, directories, ?_, ?_⟩
    · apply List.findSome?_eq_some_iff.mpr
      refine ⟨passed, stem, rest, stems, ?_, by simpa using nonePassed⟩
      apply Option.map_eq_some_iff.mpr
      refine ⟨extension, ?_, same⟩
      apply List.find?_eq_some_iff_append.mpr
      exact ⟨preferred.isFile, front, back, extensions, by simpa using noneFront⟩
    · simpa [List.findSome?_eq_none_iff] using noneBefore

/-! ### Names of files -/

/-- A stem means something and has no slash. -/
theorem plain_stem (member : stem ∈ stems) : '/' ∉ stem.toList ∧ stem.toList ≠ [] := by
  simp only [stems, List.mem_cons, List.not_mem_nil, or_false] at member
  rcases member with rfl | rfl <;> decide

/-- An extension means something and has neither a slash nor a dot. -/
theorem plain_extension (member : extension ∈ format.extensions) :
    '/' ∉ extension.toList ∧ '.' ∉ extension.toList ∧ extension.toList ≠ [] := by
  cases format <;>
    simp only [Format.extensions, List.mem_cons, List.not_mem_nil, or_false] at member
  · subst member
    decide
  · rcases member with rfl | rfl <;> decide

theorem ending_nameIn (directory : String) (stemIn : stem ∈ stems)
    (extensionIn : extension ∈ format.extensions) :
    PathName.Ending (nameIn directory stem extension) stem.toList extension.toList := by
  obtain ⟨noSlash, noDot, nonempty⟩ := plain_extension extensionIn
  have own : (stem ++ "." ++ extension).toList = stem.toList ++ '.' :: extension.toList := by simp
  have ends : PathName.EndsIn (stem ++ "." ++ extension)
      (stem.toList ++ '.' :: extension.toList) := by
    rw [← own]
    apply PathName.EndsIn.self
    rw [own]
    simp [(plain_stem stemIn).1, noSlash]
  exact ⟨ends.join directory, nonempty, noDot⟩

/-- A text that holds a slash is what is in front of its last one, and what is behind it. -/
private theorem exists_last_slash {cs : List Char} (member : '/' ∈ cs) :
    ∃ front back, cs = front ++ '/' :: back ∧ '/' ∉ back := by
  obtain ⟨before, after, split, absent⟩ :=
    List.eq_append_cons_of_mem (List.mem_reverse.mpr member)
  refine ⟨after.reverse, before.reverse, ?_, by simpa using absent⟩
  rw [← List.reverse_reverse cs, split]
  simp

/-- The extension of a variant is that of its file, unless the name of the profile ends in a
slash: then nothing stands in front of the last dot. -/
theorem ending_variantIn (profile directory : String) (stemIn : stem ∈ stems)
    (extensionIn : extension ∈ format.extensions) :
    ∃ base, PathName.Ending (variantIn profile directory stem extension) base extension.toList ∧
      (base = [] ↔ profile.toList.getLast? = some '/') := by
  obtain ⟨noSlash, noDot, nonempty⟩ := plain_extension extensionIn
  have own : (stem ++ "." ++ profile ++ "." ++ extension).toList
      = stem.toList ++ '.' :: (profile.toList ++ '.' :: extension.toList) := by simp
  by_cases slash : '/' ∈ profile.toList
  · obtain ⟨front, back, split, absent⟩ := exists_last_slash slash
    have ends : PathName.EndsIn (stem ++ "." ++ profile ++ "." ++ extension)
        (back ++ '.' :: extension.toList) := by
      refine ⟨by simp [absent, noSlash], Or.inr ⟨stem.toList ++ '.' :: front, ?_⟩⟩
      rw [own, split]
      simp
    refine ⟨back, ⟨ends.join _, nonempty, noDot⟩, ?_⟩
    rw [split]
    cases reversed : back.getLast? with
    | none => simp_all
    | some c =>
        have other : c ≠ '/' := by
          rintro rfl
          exact absent (List.mem_of_getLast? reversed)
        have nonempty : back ≠ [] := by
          rintro rfl
          cases reversed
        simp [List.getLast?_append, List.getLast?_cons, reversed, other, nonempty]
  · have ends : PathName.EndsIn (stem ++ "." ++ profile ++ "." ++ extension)
        ((stem.toList ++ '.' :: profile.toList) ++ '.' :: extension.toList) := by
      have whole : (stem ++ "." ++ profile ++ "." ++ extension).toList
          = (stem.toList ++ '.' :: profile.toList) ++ '.' :: extension.toList := by simp
      rw [← whole]
      apply PathName.EndsIn.self
      rw [whole]
      simp [(plain_stem stemIn).1, noSlash, slash]
    refine ⟨stem.toList ++ '.' :: profile.toList, ⟨ends.join _, nonempty, noDot⟩, ?_⟩
    simp only [List.append_eq_nil_iff, List.cons_ne_nil, and_false, false_iff]
    intro last
    exact slash (List.mem_of_getLast? last)

theorem formatOf?_nameIn (directory : String) (stemIn : stem ∈ stems)
    (extensionIn : extension ∈ format.extensions) :
    formatOf? (nameIn directory stem extension) = some format := by
  rw [formatOf?, (ending_nameIn directory stemIn extensionIn).extension?,
    if_neg (plain_stem stemIn).2, Option.bind_some, String.ofList_toList,
    Format.ofExtension?_eq_some_iff]
  exact extensionIn

/-- Whether the variants of files can be told by their extensions. -/
def TakesVariants (s : Sources) : Prop := s.profile.name.toList.getLast? ≠ some '/'

theorem formatOf?_variantIn (s : Sources) (directory : String) (stemIn : stem ∈ stems)
    (extensionIn : extension ∈ format.extensions) [Decidable s.TakesVariants] :
    formatOf? (variantIn s.profile.name directory stem extension) =
      if s.TakesVariants then some format else none := by
  obtain ⟨base, ending, hidden⟩ :=
    ending_variantIn s.profile.name directory stemIn extensionIn
  rw [formatOf?, ending.extension?]
  by_cases takes : s.TakesVariants
  · rw [if_pos takes, if_neg fun empty => takes (hidden.mp empty), Option.bind_some,
      String.ofList_toList, Format.ofExtension?_eq_some_iff]
    exact extensionIn
  · rw [if_neg takes, if_pos (hidden.mpr (not_not.mp takes)), Option.bind_none]

theorem variantName?_nameIn (s : Sources) (directory : String) (stemIn : stem ∈ stems)
    (extensionIn : extension ∈ format.extensions) :
    s.variantName? (nameIn directory stem extension)
      = some (variantIn s.profile.name directory stem extension) := by
  have ending := ending_nameIn directory stemIn extensionIn
  simp only [variantName?, ending.stem? (plain_stem stemIn).2, ending.extension?,
    if_neg (plain_stem stemIn).2, Option.bind_eq_bind, Option.bind_some, String.ofList_toList]
  rfl

/-! ### The files of a configuration -/

/-- The files of a format, from the lowest to the highest: the preferred one, and in front of it its
variant for the profile if variants count and it is there. -/
inductive Picks (s : Sources) (variants : Prop) (format : Format) : List String → Prop where
  | absent (absent : s.Absent format) : Picks s variants format []
  | alone {directory stem extension : String}
      (preferred : s.Preferred format directory stem extension)
      (noVariant : variants →
        s.files.isFile (variantIn s.profile.name directory stem extension) = false) :
      Picks s variants format [nameIn directory stem extension]
  | varied {directory stem extension : String}
      (preferred : s.Preferred format directory stem extension) (count : variants)
      (variant : s.files.isFile (variantIn s.profile.name directory stem extension) = true) :
      Picks s variants format
        [variantIn s.profile.name directory stem extension, nameIn directory stem extension]

/-- The files that a configuration is made of, from the lowest to the highest, with their formats:
the one file that is asked for, or else those of TOML and then those of YAML. -/
inductive Files (s : Sources) (variants : Prop) : List (Format × String) → Prop where
  | asked {path extension : String} {format : Format} (asked : s.file = some path)
      (there : s.files.holds path = true) (named : PathName.extension? path = some extension)
      (known : extension ∈ format.extensions) : Files s variants [(format, path)]
  | searched {toml yaml : List String} (unasked : s.file = none)
      (lower : s.Picks variants .toml toml) (higher : s.Picks variants .yaml yaml) :
      Files s variants (toml.map (Format.toml, ·) ++ yaml.map (Format.yaml, ·))

/-- What a file tells: what its format makes of its content; a directory tells nothing. -/
inductive Tells (s : Sources) (format : Format) (path : String) : Document → Prop where
  | content {content : String} {d : Document} (read : s.files.read? path = some content)
      (means : s.readers.document? format content = some d) : Tells s format path d
  | directory (unread : s.files.read? path = none) : Tells s format path .blank

/-- The documents that files contribute, from the lowest to the highest. -/
def Contributes (s : Sources) (variants : Prop) (documents : List Document) : Prop :=
  ∃ files, s.Files variants files ∧
    List.Forall₂ (fun file d => s.Tells file.1 file.2 d) files documents

theorem Preferred.stem_mem (preferred : s.Preferred format directory stem extension) :
    stem ∈ stems := by
  obtain ⟨before, after, split, _⟩ := preferred.firstStem
  simp [split]

theorem Preferred.extension_mem (preferred : s.Preferred format directory stem extension) :
    extension ∈ format.extensions := by
  obtain ⟨before, after, split, _⟩ := preferred.firstExtension
  simp [split]

theorem exists_picks (s : Sources) (variants : Prop) (format : Format) :
    ∃ paths, s.Picks variants format paths := by
  cases found : s.fileOf? format with
  | none => exact ⟨[], .absent (fileOf?_eq_none_iff.mp found)⟩
  | some path =>
      obtain ⟨directory, stem, extension, preferred, _⟩ := fileOf?_eq_some_iff.mp found
      by_cases variant : variants ∧
          s.files.isFile (variantIn s.profile.name directory stem extension) = true
      · exact ⟨_, .varied preferred variant.1 variant.2⟩
      · refine ⟨_, .alone preferred ?_⟩
        intro count
        simpa [count] using variant

/-- The files of a format with those left out whose extension names no format. -/
theorem Picks.filterMap_filesOf {paths : List String}
    (picks : s.Picks s.TakesVariants format paths) :
    (s.filesOf format).filterMap (fun path => (formatOf? path).map (·, path))
      = paths.map (format, ·) := by
  classical
  cases picks with
  | absent absent => simp [filesOf, fileOf?_eq_none_iff.mpr absent]
  | @alone directory stem extension preferred noVariant =>
      have found := fileOf?_eq_some_iff.mpr ⟨directory, stem, extension, preferred, rfl⟩
      have own := formatOf?_nameIn directory preferred.stem_mem preferred.extension_mem
      have other := formatOf?_variantIn s directory preferred.stem_mem preferred.extension_mem
      simp only [filesOf, found, variantOf?,
        variantName?_nameIn s directory preferred.stem_mem preferred.extension_mem]
      by_cases takes : s.TakesVariants
      · simp [Option.filter_some, noVariant takes, own]
      · cases there : s.files.isFile (variantIn s.profile.name directory stem extension) <;>
          simp [Option.filter_some, there, own, other, takes]
  | @varied directory stem extension preferred takes variant =>
      have found := fileOf?_eq_some_iff.mpr ⟨directory, stem, extension, preferred, rfl⟩
      have own := formatOf?_nameIn directory preferred.stem_mem preferred.extension_mem
      have other := formatOf?_variantIn s directory preferred.stem_mem preferred.extension_mem
      simp only [filesOf, found, variantOf?,
        variantName?_nameIn s directory preferred.stem_mem preferred.extension_mem]
      simp [Option.filter_some, variant, own, other, takes]

theorem mapM_eq_ok_iff {ε α β : Type} {f : α → Except ε β} {xs : List α} {ys : List β} :
    xs.mapM f = .ok ys ↔ List.Forall₂ (fun x y => f x = .ok y) xs ys := by
  induction xs generalizing ys with
  | nil =>
      simp [pure, Except.pure, eq_comm]
  | cons x xs inductionHypothesis =>
      rw [List.mapM_cons]
      simp only [bind_eq_ok_iff, inductionHypothesis, pure, Except.pure, Except.ok.injEq]
      constructor
      · rintro ⟨y, first, more, rest, rfl⟩
        exact .cons first rest
      · intro both
        cases both with
        | cons first rest => exact ⟨_, first, _, rest, rfl⟩

theorem readLayer_eq_ok_iff {layer : Layer} : s.readLayer format path = .ok layer ↔
    ∃ d, s.Tells format path d ∧ (⟨.file path format.name, d⟩ : Layer) = layer := by
  unfold readLayer
  cases read : s.files.read? path with
  | none =>
      constructor
      · intro given
        cases given
        exact ⟨.blank, .directory read, rfl⟩
      · rintro ⟨d, tells, rfl⟩
        cases tells with
        | content there => simp [read] at there
        | directory => rfl
  | some content =>
      cases means : s.readers.document? format content with
      | none =>
          constructor
          · intro given
            simp [means] at given
          · rintro ⟨d, tells, rfl⟩
            cases tells with
            | content there other =>
                cases read.symm.trans there
                simp [means] at other
            | directory unread => simp [read] at unread
      | some d =>
          constructor
          · intro given
            simp only [means, Except.ok.injEq] at given
            exact ⟨d, .content read means, given⟩
          · rintro ⟨e, tells, rfl⟩
            cases tells with
            | content there other =>
                cases read.symm.trans there
                cases means.symm.trans other
                simp [means]
            | directory unread => simp [read] at unread

/-- The layers of files are those of the files that a configuration is made of. -/
theorem fileLayers_eq_ok_iff {layers : List Layer} : s.fileLayers = .ok layers ↔
    ∃ files, s.Files s.TakesVariants files ∧
      List.Forall₂ (fun file layer => s.readLayer file.1 file.2 = .ok layer) files layers := by
  cases asked : s.file with
  | some path =>
      have only : ∀ {files}, s.Files s.TakesVariants files ↔ ∃ format,
          s.files.holds path = true ∧ formatOf? path = some format ∧ files = [(format, path)] := by
        intro files
        simp only [formatOf?, Option.bind_eq_some_iff, Format.ofExtension?_eq_some_iff]
        constructor
        · intro made
          cases made with
          | asked same there named known =>
              cases asked.symm.trans same
              exact ⟨_, there, ⟨_, named, known⟩, rfl⟩
          | searched unasked => simp [asked] at unasked
        · rintro ⟨format, there, ⟨extension, named, known⟩, rfl⟩
          exact .asked asked there named known
      simp only [only, fileLayers, asked]
      cases there : s.files.holds path with
      | false => simp
      | true =>
          cases known : formatOf? path with
          | none => simp
          | some format =>
              have one : (s.readLayer format path).map (fun layer => [layer])
                  = [(format, path)].mapM fun file => s.readLayer file.1 file.2 := by
                cases read : s.readLayer format path <;> simp [Except.map, read]
              simp only [Bool.not_true, Bool.false_eq_true, if_false, one, mapM_eq_ok_iff]
              simp
  | none =>
      have searched : ∀ {toml yaml : List String}, s.Picks s.TakesVariants .toml toml →
          s.Picks s.TakesVariants .yaml yaml →
          s.found = toml.map (Format.toml, ·) ++ yaml.map (Format.yaml, ·) := by
        intro toml yaml lower higher
        simp [found, Format.all, lower.filterMap_filesOf, higher.filterMap_filesOf]
      have steps : s.fileLayers = s.found.mapM fun file => s.readLayer file.1 file.2 := by
        simp [fileLayers, asked]
      rw [steps, mapM_eq_ok_iff]
      constructor
      · intro read
        obtain ⟨toml, lower⟩ := s.exists_picks s.TakesVariants .toml
        obtain ⟨yaml, higher⟩ := s.exists_picks s.TakesVariants .yaml
        exact ⟨_, .searched asked lower higher, searched lower higher ▸ read⟩
      · rintro ⟨files, made, read⟩
        cases made with
        | asked other => simp [asked] at other
        | searched _ lower higher => exact (searched lower higher).symm ▸ read

/-- The documents of the layers of files are what the files contribute. -/
theorem exists_fileLayers_iff {documents : List Document} :
    (∃ layers, s.fileLayers = .ok layers ∧ layers.map Layer.document = documents) ↔
      s.Contributes s.TakesVariants documents := by
  simp only [fileLayers_eq_ok_iff, readLayer_eq_ok_iff, Contributes]
  constructor
  · rintro ⟨layers, ⟨files, made, read⟩, rfl⟩
    refine ⟨files, made, ?_⟩
    rw [List.forall₂_map_right_iff]
    apply read.imp
    rintro file layer ⟨d, tells, rfl⟩
    exact tells
  · rintro ⟨files, made, tells⟩
    refine ⟨List.zipWith (fun file d => ⟨.file file.2 file.1.name, d⟩) files documents,
      ⟨files, made, ?_⟩, ?_⟩
    · clear made
      induction tells with
      | nil => exact .nil
      | cons first _ inductionHypothesis => exact .cons ⟨_, first, rfl⟩ inductionHypothesis
    · clear made
      induction tells with
      | nil => rfl
      | cons _ _ inductionHypothesis => simp [inductionHypothesis]

/-! ### The layers one over the other -/

/-- The document of the settings of a router that nothing configures. -/
def defaults : Document := ({} : Settings).toDocument

/-- What variables say, if they count. -/
def environmentDocuments (s : Sources) : List Document :=
  if s.useEnvironment then [s.environment.document s.readers.value] else []

/-- The layers below the overrides, from the lowest to the highest. -/
def base (s : Sources) (documents : List Document) : List Document :=
  defaults :: documents ++ s.environmentDocuments

/-- All layers, from the lowest to the highest, each override by itself. -/
def stack (s : Sources) (documents : List Document) : List Document :=
  s.base documents ++ s.overrides.map Settings.toDocument

/-- The document that the settings are decoded from. -/
def extracted (s : Sources) : Except ConfigError Document :=
  s.layers.map fun layers => Document.mergeAll (layers.map Layer.document)

/-- An entry of the layers below that an override hides and a later override brings back. -/
def Revives (s : Sources) (documents : List Document) (path : List String) : Prop :=
  Document.Revived (Document.mergeAll (s.base documents)) (s.overrides.map Settings.toDocument) path

theorem load_eq_ok_iff {r : Settings} :
    s.load = .ok r ↔ ∃ d, s.extracted = .ok d ∧ Settings.decode d = .ok r := by
  unfold load extracted
  cases s.layers with
  | error e => simp [bind, Except.bind, Except.map]
  | ok layers =>
      simp only [bind, Except.bind, Except.map, settingsOf, Except.ok.injEq, exists_eq_left']
      cases Settings.decode (Document.mergeAll (layers.map Layer.document)) <;> simp

/-- The overrides are merged by themselves and then over the layers below them. -/
theorem extracted_eq_ok_iff {d : Document} : s.extracted = .ok d ↔
    ∃ documents, s.Contributes s.TakesVariants documents ∧
      Document.merge (Document.mergeAll (s.base documents))
        (Document.mergeAll (s.overrides.map Settings.toDocument)) = d := by
  simp only [← exists_fileLayers_iff]
  unfold extracted layers
  cases s.fileLayers with
  | error e => simp [bind, Except.bind, Except.map]
  | ok layers =>
      have environment : s.environmentLayers.map Layer.document = s.environmentDocuments := by
        unfold environmentLayers environmentDocuments
        split <;> rfl
      simp [bind, Except.bind, pure, Except.pure, Except.map, base, environment, overrideLayer,
        Document.mergeAll, List.foldl_append, defaults]

/-- What a file tells is an orderly mapping. -/
theorem Tells.orderly (readers : s.readers.Orderly) {d : Document}
    (tells : s.Tells format path d) : d.Orderly ∧ d.isMapping = true := by
  cases tells with
  | content _ means => exact readers.file means
  | directory => exact ⟨.blank, rfl⟩

/-- The layers below the overrides are orderly mappings. -/
theorem orderly_base (readers : s.readers.Orderly) {variants : Prop} {documents : List Document}
    (contributes : s.Contributes variants documents) :
    ∀ d ∈ s.base documents, d.Orderly ∧ d.isMapping = true := by
  intro d member
  simp only [base, List.mem_append, List.mem_cons] at member
  rcases member with (rfl | file) | set
  · exact ⟨Settings.orderly_toDocument (by simp), rfl⟩
  · obtain ⟨files, _, told⟩ := contributes
    obtain ⟨n, inRange, rfl⟩ := List.getElem_of_mem file
    exact (told.get (told.length_eq ▸ inRange) inRange).orderly readers
  · unfold environmentDocuments at set
    split at set
    · rw [List.mem_singleton.mp set]
      exact Environment.orderly_document readers.value s.environment
    · cases set

theorem orderly_overrides
    (sections : ∀ r ∈ s.overrides, ∀ entry ∈ r.adapters, Document.Orderly entry.2) :
    ∀ d ∈ s.overrides.map Settings.toDocument, d.Orderly := by
  intro d member
  obtain ⟨r, within, rfl⟩ := List.mem_map.mp member
  exact Settings.orderly_toDocument (sections r within)

/-- The variable that names the profile sets no entry. -/
theorem document_erase_profile (value : String → Document) (environment : Environment) :
    Environment.document value (Fields.erase Environment.profileVariable environment)
      = environment.document value := by
  have silent : Environment.path? Environment.profileVariable = none := by decide
  unfold Environment.document Fields.erase
  rw [List.filterMap_filter]
  congr 1
  apply List.filterMap_congr
  rintro ⟨name, text⟩ _
  by_cases same : name = Environment.profileVariable
  · simp [same, Environment.entry?, silent]
  · simp [same]

/-- One override alone revives nothing. -/
theorem not_revives_of_one (sections : ∀ r ∈ s.overrides, ∀ entry ∈ r.adapters,
    Document.Orderly entry.2) (one : s.overrides.length ≤ 1) (documents : List Document)
    (path : List String) : ¬ s.Revives documents path := by
  intro revives
  obtain ⟨d, member, hides⟩ := revives.hidden
  match overrides : s.overrides with
  | [] => simp [overrides] at member
  | [r] =>
      have only : s.overrides.map Settings.toDocument = [] ++ [d] := by
        simp_all
      have orderly := orderly_overrides sections d member
      rw [Revives, only] at revives
      exact Document.not_revived_of_touches_last orderly hides revives
  | _ :: _ :: _ => simp [overrides] at one

/-- Settings are decoded from layers, each over the ones before: the defaults, what the files
contribute, what variables say, and the overrides in order. What the last layer to touch a path has
there is what the document has there. At every path it shows what the layers show when they are
merged one by one, unless an override hides an entry of the layers below and a later override brings
it back; a single override never does. The variable that names the profile sets no entry. However
files and variables are read, all that is asked is that mappings are read with their names in
order. -/
theorem later_layers_prevail (s : Sources) (readers : s.readers.Orderly)
    (sections : ∀ r ∈ s.overrides, ∀ entry ∈ r.adapters, Document.Orderly entry.2) :
    (∀ r, s.load = .ok r ↔ ∃ d, s.extracted = .ok d ∧ Settings.decode d = .ok r) ∧
    ((∃ d, s.extracted = .ok d) ↔ ∃ documents, s.Contributes s.TakesVariants documents) ∧
    (∀ documents, s.Contributes s.TakesVariants documents → ∃ d, s.extracted = .ok d ∧
      (∀ path layer, Document.decisive (s.stack documents) path = some layer →
        (layer.at? path).isSome = true → d.shown path = layer.shown path) ∧
      (∀ path, d.shown path = (Document.mergeAll (s.stack documents)).shown path ↔
        ¬ s.Revives documents path) ∧
      (d = Document.mergeAll (s.stack documents) ↔ ∀ path, ¬ s.Revives documents path) ∧
      (s.overrides.length ≤ 1 → ∀ path, ¬ s.Revives documents path)) ∧
    Environment.document s.readers.value
        (Fields.erase Environment.profileVariable s.environment)
      = s.environment.document s.readers.value := by
  refine ⟨fun r => load_eq_ok_iff, ?_, ?_, document_erase_profile s.readers.value s.environment⟩
  · simp [extracted_eq_ok_iff, exists_comm]
  · intro documents contributes
    have below := orderly_base readers contributes
    have overrides := orderly_overrides sections
    have all : ∀ d ∈ s.stack documents, d.Orderly := by
      intro d member
      rcases List.mem_append.mp member with lower | higher
      · exact (below d lower).1
      · exact overrides d higher
    have start : (Document.mergeAll (s.base documents)).isMapping = true :=
      Document.isMapping_foldl rfl fun d member => (below d member).2
    have oneByOne : Document.mergeAll (s.stack documents) = (s.overrides.map
        Settings.toDocument).foldl Document.merge (Document.mergeAll (s.base documents)) := by
      rw [stack, Document.mergeAll, List.foldl_append]
      rfl
    have agrees := Document.shown_merge_mergeAll_iff start overrides
    rw [← oneByOne] at agrees
    refine ⟨_, extracted_eq_ok_iff.mpr ⟨documents, contributes, rfl⟩, ?_, agrees, ?_,
      fun one => not_revives_of_one sections one documents⟩
    · intro path layer last present
      have kept : ¬ s.Revives documents path := by
        rw [stack, Document.decisive_append] at last
        cases higher : Document.decisive (s.overrides.map Settings.toDocument) path with
        | none =>
            rintro ⟨_, ⟨o, member, hides⟩, _⟩
            rw [Document.decisive_eq_none_iff.mp higher o member] at hides
            cases hides
        | some o =>
            rw [higher, Option.some_or] at last
            cases last
            exact Document.not_revived_of_shown overrides higher present
      rw [(agrees path).mpr kept, Document.mergeAll, Document.shown_foldl _ all, last,
        Option.getD_some]
    · constructor
      · intro same path
        exact (agrees path).mp (by rw [same])
      · intro kept
        apply Document.Orderly.ext
        · exact (Document.Orderly.blank.foldl fun d member => (below d member).1).merge
            (Document.Orderly.blank.foldl overrides)
        · exact Document.Orderly.blank.foldl all
        · exact fun path => (agrees path).mpr (kept path)

/-- A file gives an adapter a section, an override switches the adapter off, and another one gives
it a new section. -/
def switchedOn : Sources where
  files := .ofList [("switchyard.toml", "[adapters.aws]\np = true\n")]
  overrides := [{ adapters := [("aws", .string "off")] },
    { adapters := [("aws", .mapping [("q", .bool true)])] }]

/-- The old section, as the file has it. -/
def oldSection : Document :=
  .mapping [("adapters", .mapping [("aws", .mapping [("p", .bool true)])])]

theorem readers_switchedOn : switchedOn.readers = .standard := rfl

theorem contributes_switchedOn (variants : Prop) :
    switchedOn.Contributes variants [oldSection] := by
  have preferred : switchedOn.Preferred .toml "" "switchyard" "toml" :=
    ⟨by decide, ⟨[], [], rfl, by simp⟩, ⟨[], ["config"], rfl, by simp⟩, ⟨[], [], rfl, by simp⟩⟩
  have noVariant : switchedOn.files.isFile
      (variantIn switchedOn.profile.name "" "switchyard" "toml") = false := by decide
  have noYaml : switchedOn.Absent .yaml := by
    unfold Absent
    decide
  have statements : Toml.statements 25 "[adapters.aws]\np = true\n".toList
      = some [.header ["adapters", "aws"], .assignment ["p"] (.bool true)] := by
    simp only [String.reduceToList]
    rfl
  refine ⟨_, .searched rfl (.alone preferred fun _ => noVariant) (.absent noYaml), ?_⟩
  have read : switchedOn.files.read? "switchyard.toml" = some "[adapters.aws]\np = true\n" := by
    decide
  have means : Format.document? .toml "[adapters.aws]\np = true\n" = some oldSection := by
    show (Toml.statements 25 "[adapters.aws]\np = true\n".toList).bind Toml.assemble = _
    rw [statements]
    rfl
  refine .cons (.content read ?_) .nil
  rw [readers_switchedOn, Readers.document?_standard]
  exact means

/-- The new section is what the last layer has. -/
theorem new_section_prevails :
    switchedOn.readers.Orderly ∧
      (∀ r ∈ switchedOn.overrides, ∀ entry ∈ r.adapters, Document.Orderly entry.2) ∧
      ∃ d, switchedOn.extracted = .ok d ∧
        d.shown ["adapters", "aws", "q"] = some (.bool true) := by
  have sections : ∀ r ∈ switchedOn.overrides, ∀ entry ∈ r.adapters,
      Document.Orderly entry.2 := by
    simp only [switchedOn, List.forall_mem_cons]
    refine ⟨⟨.leaf rfl, by simp⟩, ⟨.mapping ?_ ?_, by simp⟩, by simp⟩
    · simp [Fields.Sorted, Fields.names]
    · simpa using Document.Orderly.leaf rfl
  have readers : switchedOn.readers.Orderly := by
    rw [readers_switchedOn]
    exact Readers.orderly_standard
  obtain ⟨_, _, layered, _⟩ := later_layers_prevail switchedOn readers sections
  obtain ⟨d, extracted, prevails, _⟩ := layered _ (contributes_switchedOn switchedOn.TakesVariants)
  exact ⟨readers, sections, d, extracted, prevails ["adapters", "aws", "q"] _ rfl rfl⟩

/-- The entry of the old section is back in the new one. -/
theorem old_section_revived : ∃ d documents, switchedOn.extracted = .ok d ∧
    switchedOn.Contributes True documents ∧
    d ≠ Document.mergeAll (switchedOn.stack documents) := by
  have contributes := contributes_switchedOn switchedOn.TakesVariants
  refine ⟨_, _, extracted_eq_ok_iff.mpr ⟨_, contributes, rfl⟩, contributes_switchedOn True, ?_⟩
  intro same
  have shown := congrArg (fun d => (d.shown ["adapters", "aws", "p"]).isSome) same
  revert shown
  decide

end Sources
end EventDispatch
