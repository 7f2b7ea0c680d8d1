import EventDispatch.Config.Document
/-!
Why a configuration is refused.

Purpose: the causes, and how messages about configuration documents name what was met and what was
asked for. These messages differ from those about JSON documents: integers tell whether they are
signed, and choices are called by their type.

Main exports: `Fault.configMessage`, `LayerSource`, `ConfigError`, `ConfigError.message`.
-/

namespace EventDispatch

/-- How a message about a configuration names what was met. -/
def Found.configPhrase : Found → String
  | .null => "unit"
  | .bool b => "bool " ++ toString b
  | .integer i signed =>
    (if signed then "signed int \x60" else "unsigned int \x60") ++ toString i ++ "\x60"
  | .real x => "float \x60" ++ x.plainText ++ "\x60"
  | .string s => "string " ++ Text.quoted s
  | .sequence => "sequence"
  | .mapping => "map"
  | .unreadable => "unit"

/-- How a message about a configuration names what was asked for. -/
def Expected.configPhrase : Expected → String
  | .record name => "struct " ++ name
  | .choice name => "enum " ++ name
  | .phrase text => text

/-- The wording of a fault in a configuration. -/
def Fault.configMessage : Fault → String
  | .mismatch found expected =>
    "invalid type: found " ++ found.configPhrase ++ ", expected " ++ expected.configPhrase
  | .outOfRange i signed expected =>
    "invalid value " ++ (Found.integer i signed).configPhrase ++ ", expected " ++ expected
  | .unknownChoice name known =>
    "unknown variant: found \x60" ++ name ++ "\x60, expected \x60"
      ++ choicesPhrase "one of " known ++ "\x60"
  | .notOneEntry => "invalid type: found map, expected enum"
  | .missing field => "missing field \x60" ++ field ++ "\x60"
  | .repeated field => "duplicate field \x60" ++ field ++ "\x60"
  | .tooShort length record fields =>
    "invalid length " ++ toString length ++ ", expected struct " ++ record ++ " with "
      ++ toString fields ++ (if fields = 1 then " element" else " elements")
  | .tooLong length => "invalid length " ++ toString length ++ ", expected fewer elements in array"

/-- Where a layer of a configuration comes from. -/
inductive LayerSource where
  | defaults
  /-- A file, with the name of its format. -/
  | file (path : String) (format : String)
  /-- Variables whose names begin alike. -/
  | variables (start : String)
  | overrides
deriving DecidableEq, Repr, Inhabited

/-- How a message calls an entry of a layer, and the layer itself. -/
def LayerSource.place (path : List String) : LayerSource → String
  | .defaults => ""
  | .overrides => ""
  | .file name format =>
    " for key " ++ Text.quoted (".".intercalate ("default" :: path)) ++ " in " ++ name ++ " "
      ++ format ++ " file"
  | .variables start =>
    " for key " ++ Text.quoted (".".intercalate (path.map fun step => step.map Char.toUpper))
      ++ " in \x60" ++ start ++ "\x60 environment variable(s)"

/-- Why a configuration is refused. -/
inductive ConfigError where
  | fileNotFound (path : String)
  | unsupportedFormat (path : String)
  /-- A file is malformed. -/
  | malformed (path : String) (format : String)
  /-- The merged layers do not fit the settings; the entry that does not fit comes from a layer. -/
  | unfit (error : DecodeError) (source : LayerSource)
  | invalid (reason : String)
  /-- The section of an adapter does not fit it. -/
  | adapterSection (adapter : String) (error : DecodeError)
deriving Repr, Inhabited

namespace ConfigError

/-- What is wrong with the layers themselves. -/
def detail? : ConfigError → Option String
  | .malformed path format => some ("malformed " ++ format ++ " in " ++ path)
  | .unfit e source => some (e.fault.configMessage ++ source.place e.path)
  | _ => none

/-- The wording of a configuration error. -/
def message (e : ConfigError) : String :=
  match e with
  | .fileNotFound path => "Configuration file not found: " ++ path
  | .unsupportedFormat path =>
    "Unsupported configuration format for " ++ path ++ ", enable the matching *-config feature"
  | .invalid reason => "Invalid configuration: " ++ reason
  | .adapterSection adapter e =>
    "Invalid configuration for adapter '" ++ adapter ++ "': " ++ e.fault.configMessage
  | e => "Failed to load configuration: " ++ (e.detail?).getD ""

end ConfigError
end EventDispatch
