import EventDispatch.Config.Document
/-!
Configuration by variables.

Purpose: a variable whose name begins with the library's own prefix sets one entry of the
configuration. The rest of the name is the path to the entry, in lower case, its steps separated by
two underscores or a dot; a name with an empty step sets nothing. The variable that names the
profile is no entry. How the texts of variables are read is not decided here.

Main exports: `Environment`, `Environment.profileName?`, `Environment.document`.
-/

namespace EventDispatch

/-- Variables with their texts, in the order of their names. -/
abbrev Environment := Fields String

namespace Environment

/-- What the names of all variables of the configuration begin with. -/
def namePrefix : String := "SWITCHYARD_"

/-- The variable that names the profile. -/
def profileVariable : String := "SWITCHYARD_PROFILE"

/-- The name of the profile, if a variable sets it. -/
def profileName? (env : Environment) : Option String := env.find? profileVariable

/-- What is left of a name behind a prefix, case aside. -/
def rest? (start name : List Char) : Option (List Char) :=
  if (start.map Char.toLower).isPrefixOf (name.map Char.toLower) then some (name.drop start.length)
  else none

/-- The steps of a path. A single underscore belongs to a step. -/
def steps : List Char → List (List Char)
  | [] => [[]]
  | '_' :: '_' :: cs => [] :: steps cs
  | c :: cs =>
    if c = '.' then [] :: steps cs
    else match steps cs with
      | [] => [[c]]
      | step :: more => (c :: step) :: more

/-- The path that a variable sets. -/
def path? (name : String) : Option (List String) :=
  match rest? namePrefix.toList name.toList with
  | none => none
  | some rest =>
    let path := steps (rest.map Char.toLower)
    if rest.map Char.toLower = "profile".toList || path.any List.isEmpty then none
    else some (path.map String.ofList)

/-- What one variable says, by the value that is read from its text. -/
def entry? (value : String → Document) (name text : String) : Option Document :=
  (path? name).map (value text).nested

/-- What all variables say, one over the other in the order of their names. -/
def document (value : String → Document) (env : Environment) : Document :=
  Document.mergeAll (env.filterMap fun (name, text) => entry? value name text)

end Environment
end EventDispatch
