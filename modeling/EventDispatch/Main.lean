import EventDispatch.Command.Invoke
import EventDispatch.Text.Unique
/-!
The program.

Purpose: gathers what surrounds the command, runs it, and prints what it leaves behind.

Main exports: `main`.
-/

namespace EventDispatch.Program

/-- The variables of this process. -/
def environment : IO Environment := do
  let text ← IO.FS.readFile "/proc/self/environ"
  let pairs := (text.splitOn "\x00").filterMap fun entry =>
    match entry.splitOn "=" with
    | name :: value :: more => some (name, "=".intercalate (value :: more))
    | _ => none
  return Fields.ofList pairs

/-- The directory of the user's own configuration files. -/
def userDirectory (environment : Environment) : Option String :=
  match environment.find? "XDG_CONFIG_HOME" with
  | some path =>
    if path.toList.head? = some '/' then some path
    else (environment.find? "HOME").map fun home => PathName.join home ".config"
  | none => (environment.find? "HOME").map fun home => PathName.join home ".config"

/-- The files among some names. A directory counts as one that holds a nameless file. -/
def filesOf (paths : List String) : IO FileTree := do
  let found ← paths.mapM fun (path : String) => do
    match ← (IO.FS.readFile path).toBaseIO with
    | .ok content => return some (PathName.place path, content)
    | .error (.noFileOrDirectory _ _ _) => return none
    | .error _ => return some (PathName.place path ++ [""], "")
  return found.reduceOption

/-- Random bits. -/
def randomBits : IO Nat := do
  let bytes ← IO.getRandomBytes 16
  return bytes.toList.foldl (fun n byte => n * 256 + byte.toNat) 0

end EventDispatch.Program

open EventDispatch Program in
/-- Runs the command in its surroundings. -/
def main (arguments : List String) : IO UInt32 := do
  let environment ← environment
  let seed ← randomBits
  let surroundings : Surroundings :=
    { environment
      userDirectory := userDirectory environment
      fresh := fun position => Text.unique (seed + position) }
  let files ← filesOf (Invocation.reach surroundings arguments)
  let input ← if Invocation.readsInput arguments then (← IO.getStdin).readToEnd else pure ""
  let output := Invocation.run { surroundings with files, input } arguments
  IO.print output.standard
  IO.eprint output.error
  return output.code.toUInt32
