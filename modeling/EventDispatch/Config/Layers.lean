import EventDispatch.Config.Check
import EventDispatch.Config.Environment
import EventDispatch.Config.Inline
import EventDispatch.Config.Profile
import EventDispatch.Config.Toml.Reader
import EventDispatch.Config.Yaml.Reader
/-!
Layers of a configuration.

Purpose: a configuration is merged from layers: the defaults, then files, then variables, then
overrides, each over the ones before. With one file asked for, it alone is read. Otherwise each
format has a file of its own, the first that exists when directories, stems and extensions are tried
in this order, and the variant of that file for the profile is a layer below it. The overrides are
merged by themselves first, and make one layer. What stands in a file or in a variable is read by
readers that may be others than the usual ones.

Main exports: `Format`, `Readers`, `Layer`, `Sources`, `Sources.layers`, `Sources.load`.
-/

namespace EventDispatch

/-- A format of configuration files. -/
inductive Format where
  | toml
  | yaml
deriving DecidableEq, Repr, Inhabited

namespace Format

def name : Format → String
  | .toml => "TOML"
  | .yaml => "YAML"

/-- The extensions in the order in which they are tried. -/
def extensions : Format → List String
  | .toml => ["toml"]
  | .yaml => ["yaml", "yml"]

/-- The formats in the order in which their files are merged. -/
def all : List Format := [.toml, .yaml]

/-- The format that an extension names. -/
def ofExtension? (extension : String) : Option Format :=
  all.find? fun format => format.extensions.contains extension

/-- The document of a file's content; nothing when it is malformed. -/
def document? : Format → String → Option Document
  | .toml => Toml.document?
  | .yaml => Yaml.mapping?

end Format

/-- How texts are read. -/
structure Readers where
  /-- The document of a file's content; nothing when it is malformed. -/
  document? : Format → String → Option Document
  /-- The value that the text of a variable says. -/
  value : String → Document
deriving Inhabited

/-- The readers of the program. -/
def Readers.standard : Readers where
  document? := Format.document?
  value text := Inline.document (Text.trimmed text)

/-- A layer of a configuration. -/
structure Layer where
  source : LayerSource
  document : Document
deriving Repr, Inhabited

/-- What a configuration is loaded from. -/
structure Sources where
  files : FileTree := []
  environment : Environment := []
  profile : Profile := .development
  /-- The directory of the user's own configuration files. -/
  userDirectory : Option String := none
  /-- The directories to be searched instead of the usual ones. -/
  searchPaths : List String := []
  /-- The one file to be read. -/
  file : Option String := none
  useEnvironment : Bool := true
  overrides : List Settings := []
  /-- How the files and the variables are read. -/
  readers : Readers := .standard
deriving Inhabited

namespace Sources

/-- Sources with the profile that a variable names. -/
def ofEnvironment (environment : Environment) : Sources where
  environment := environment
  profile := (environment.profileName?.map Profile.parse).getD .development

/-- The stems of configuration files in the order in which they are tried. -/
def stems : List String := ["switchyard", "config"]

/-- The directories to be searched. -/
def directories (s : Sources) : List String :=
  if s.searchPaths.isEmpty then
    "" :: (s.userDirectory.map fun d => PathName.join d "switchyard").toList
  else s.searchPaths

/-- The names under which the file of a format is looked for, in order. -/
def candidates (s : Sources) (format : Format) : List String :=
  s.directories.flatMap fun directory =>
    stems.flatMap fun stem =>
      format.extensions.map fun extension => PathName.join directory (stem ++ "." ++ extension)

/-- The file of a format. -/
def fileOf? (s : Sources) (format : Format) : Option String :=
  (s.candidates format).find? s.files.isFile

/-- The name of the variant of a file for the profile. -/
def variantName? (s : Sources) (path : String) : Option String := do
  let stem ← PathName.stem? path
  let extension ← PathName.extension? path
  return PathName.withFileName path (stem ++ "." ++ s.profile.name ++ "." ++ extension)

/-- The variant of a file for the profile, if there is one. -/
def variantOf? (s : Sources) (path : String) : Option String :=
  (s.variantName? path).filter s.files.isFile

/-- The names of all files that may be read. -/
def reach (s : Sources) : List String :=
  match s.file with
  | some path => [path]
  | none => Format.all.flatMap fun format =>
      (s.candidates format).flatMap fun path => path :: (s.variantName? path).toList

/-- Reads a file as a layer. A directory in the place of a file says nothing. -/
def readLayer (s : Sources) (format : Format) (path : String) : Except ConfigError Layer :=
  match s.files.read? path with
  | none => .ok ⟨.file path format.name, .blank⟩
  | some content => match s.readers.document? format content with
    | some document => .ok ⟨.file path format.name, document⟩
    | none => .error (.malformed path format.name)

/-- The files of a format, from the lowest to the highest. -/
def filesOf (s : Sources) (format : Format) : List String :=
  match s.fileOf? format with
  | some path => (s.variantOf? path).toList ++ [path]
  | none => []

/-- The format in which a file is read. -/
def formatOf? (path : String) : Option Format :=
  (PathName.extension? path).bind Format.ofExtension?

/-- The files that a search finds, from the lowest to the highest, with their formats. A file whose
extension names no format is passed over. -/
def found (s : Sources) : List (Format × String) :=
  (Format.all.flatMap s.filesOf).filterMap fun path => (formatOf? path).map (·, path)

/-- The layers of files. -/
def fileLayers (s : Sources) : Except ConfigError (List Layer) :=
  match s.file with
  | some path =>
    if !s.files.holds path then .error (.fileNotFound path)
    else match formatOf? path with
      | none => .error (.unsupportedFormat path)
      | some format => (s.readLayer format path).map fun layer => [layer]
  | none => s.found.mapM fun (format, path) => s.readLayer format path

/-- The layer of variables, if they count. -/
def environmentLayers (s : Sources) : List Layer :=
  if s.useEnvironment then
    [⟨.variables Environment.namePrefix, s.environment.document s.readers.value⟩]
  else []

/-- The layer of overrides: what they come to when they are merged by themselves, in order. -/
def overrideLayer (s : Sources) : Layer :=
  ⟨.overrides, Document.mergeAll (s.overrides.map Settings.toDocument)⟩

/-- All layers, from the lowest to the highest. -/
def layers (s : Sources) : Except ConfigError (List Layer) := do
  let files ← s.fileLayers
  return ⟨.defaults, ({} : Settings).toDocument⟩ :: files ++ s.environmentLayers
    ++ [s.overrideLayer]

/-- Whether a document has something other than a mapping on the way to a path. -/
def blocks : Document → List String → Bool
  | _, [] => false
  | d, name :: path => !d.isMapping || (d.get? name).any (blocks · path)

/-- The layer that an entry of the merged document comes from: the last that replaced it. A mapping
comes from the first layer that has it. -/
def originOf (layers : List Layer) (path : List String) : LayerSource :=
  let step (found : Option (LayerSource × Bool)) (layer : Layer) : Option (LayerSource × Bool) :=
    match layer.document.at? path with
    | some d => match found with
      | some (source, true) =>
        if d.isMapping then some (source, true) else some (layer.source, false)
      | _ => some (layer.source, d.isMapping)
    | none => if blocks layer.document path then none else found
  match layers.foldl step none with
  | some (source, _) => source
  | none => .defaults

/-- The settings of merged layers. -/
def settingsOf (layers : List Layer) : Except ConfigError Settings :=
  match Settings.decode (Document.mergeAll (layers.map Layer.document)) with
  | .ok settings => .ok settings
  | .error e => .error (.unfit e (originOf layers e.path))

/-- Loads the settings. -/
def load (s : Sources) : Except ConfigError Settings := do
  settingsOf (← s.layers)

end Sources
end EventDispatch
