/-!
Command lines.

Purpose: what a command takes: options with long names, perhaps with a letter and a value, and one
argument by position. The usage and the help are made from this description. Explanations stand
beside the options where there is room, and otherwise all on lines of their own.

Main exports: `OptionRole`, `CommandOption`, `Positional`, `Grammar`, `Grammar.usage`,
`Grammar.help`.
-/

namespace EventDispatch

/-- What an option is for. -/
inductive OptionRole where
  /-- Switches something on. -/
  | switch
  /-- Takes a value, which has a name and may be required to say something. -/
  | value (name : String) (filled : Bool)
  | help
  | version
deriving DecidableEq, Repr, Inhabited

/-- An option of a command. -/
structure CommandOption where
  long : String
  short : Option Char := none
  role : OptionRole := .switch
  usual : Option String := none
  explanation : String
deriving Repr, Inhabited

namespace CommandOption

/-- How messages call an option. -/
def display (o : CommandOption) : String :=
  match o.role with
  | .value name _ => "--" ++ o.long ++ " <" ++ name ++ ">"
  | _ => "--" ++ o.long

/-- What is told about the value that stands for an absent one. -/
def usualNote (o : CommandOption) : String :=
  match o.usual with
  | some value => "[default: " ++ value ++ "]"
  | none => ""

/-- The whole explanation. -/
def explained (o : CommandOption) : String :=
  match o.usual with
  | some _ => o.explanation ++ " " ++ o.usualNote
  | none => o.explanation

/-- The names of an option in the help. -/
def heading (o : CommandOption) : String :=
  (match o.short with
    | some c => "-" ++ c.toString ++ ", "
    | none => "    ") ++ o.display

end CommandOption

/-- The argument by position, which may be left out. -/
structure Positional where
  name : String
  explanation : String
deriving Repr, Inhabited

/-- How messages call the argument by position. -/
def Positional.display (p : Positional) : String := "[" ++ p.name ++ "]"

/-- What a command takes. -/
structure Grammar where
  name : String
  version : String
  about : String
  positional : Positional
  options : List CommandOption
deriving Repr, Inhabited

namespace Grammar

/-- The option with a long name. -/
def long? (g : Grammar) (name : String) : Option CommandOption :=
  g.options.find? fun o => o.long = name

/-- The option with a letter. -/
def short? (g : Grammar) (letter : Char) : Option CommandOption :=
  g.options.find? fun o => o.short = some letter

/-- The usage: in general, or with the options that are in use. -/
def usage (g : Grammar) (used : Option (List String)) : String :=
  let options := match used with
    | none => ["[OPTIONS]"]
    | some names => names.filterMap fun name => (g.long? name).map CommandOption.display
  "Usage: " ++ " ".intercalate (g.name :: options ++ [g.positional.display])

/-- The columns of a line of help. -/
def columns : Nat := 100

/-- Whether an explanation has no room beside options of a width. -/
def crowded (width : Nat) (o : CommandOption) : Bool :=
  let left := width + 12
  columns * 4 < left * 10 && columns < left + o.explanation.length + o.usualNote.length

/-- The lines about the options. -/
def optionLines (g : Grammar) : List String :=
  let width := (g.options.map fun o => o.display.length).foldl max 0
  let apart := g.options.any (crowded width)
  g.options.map fun o =>
    let room := if apart then "\n" ++ "".pushn ' ' 10
      else "".pushn ' ' (width - o.display.length + 2)
    "  " ++ o.heading ++ room ++ o.explained ++ "\n"

/-- The help. -/
def help (g : Grammar) : String :=
  g.about ++ "\n\n" ++ g.usage none ++ "\n\nArguments:\n  " ++ g.positional.display ++ "  "
    ++ g.positional.explanation ++ "\n\nOptions:\n" ++ String.join g.optionLines

/-- The line that tells the version. -/
def versionLine (g : Grammar) : String := g.name ++ " " ++ g.version ++ "\n"

end Grammar
end EventDispatch
