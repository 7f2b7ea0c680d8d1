/-!
Names of files.

Purpose: a name is a text whose parts are separated by slashes. Empty parts and single dots inside a
name mean nothing. The last part is the file's own name, unless the name ends at a root, a single
dot or a double dot; behind the last dot of a file's own name stands its extension, unless that dot
comes first.

Main exports: `PathName.join`, `PathName.fileName?`, `PathName.stem?`, `PathName.extension?`,
`PathName.withFileName`, `FileTree`, `FileTree.read?`, `FileTree.holds`, `FileTree.content`.
-/

namespace EventDispatch

namespace PathName

/-- The parts of a text between slashes. -/
def split : List Char → List (List Char)
  | [] => [[]]
  | c :: cs =>
    if c = '/' then [] :: split cs
    else match split cs with
      | [] => [[c]]
      | part :: parts => (c :: part) :: parts

/-- The parts of a name that mean something; a dot means something at the start only. -/
def parts (path : String) : List String :=
  match split path.toList with
  | [] => []
  | first :: rest =>
    ((if first = [] then [] else [first])
      ++ rest.filter fun part => part ≠ [] ∧ part ≠ ['.']).map String.ofList

/-- A name below a directory; a name that starts at the root stands by itself. -/
def join (directory path : String) : String :=
  if path.toList.head? = some '/' || directory = "" then path
  else if directory.toList.getLast? = some '/' then directory ++ path
  else directory ++ "/" ++ path

/-- The file's own name. -/
def fileName? (path : String) : Option String :=
  match (parts path).getLast? with
  | some part => if part = "." || part = ".." then none else some part
  | none => none

/-- Splits a file's own name at its last dot, unless that dot comes first. -/
def splitExtension (own : String) : String × Option String :=
  let back := own.toList.reverse
  let extension := back.takeWhile (· ≠ '.')
  match back.drop extension.length with
  | [] => (own, none)
  | [_] => (own, none)
  | _ :: stem => (String.ofList stem.reverse, some (String.ofList extension.reverse))

/-- The file's own name without its extension. -/
def stem? (path : String) : Option String := (fileName? path).map fun own => (splitExtension own).1

/-- The extension. -/
def extension? (path : String) : Option String :=
  (fileName? path).bind fun own => (splitExtension own).2

/-- The name of another file in the same directory. -/
def withFileName (path own : String) : String :=
  let directory := (parts path).dropLast
  let root := if path.toList.head? = some '/' then "/" else ""
  join (root ++ "/".intercalate directory) own

/-- Parts with single dots left out and double dots worked off. Double dots that lead above the
start stay in front. -/
def resolve : (above : List String) → List String → List String
  | above, [] => above.reverse
  | above, part :: rest =>
    if part = "." then resolve above rest
    else if part = ".." then match above with
      | [] => resolve [".."] rest
      | step :: more => resolve (if step = ".." then ".." :: step :: more else more) rest
    else resolve (part :: above) rest

/-- The place a name leads to: its resolved parts, behind an empty part when it starts at the root.
-/
def place (path : String) : List String :=
  let resolved := resolve [] (parts path)
  if path.toList.head? = some '/' then "" :: resolved else resolved

end PathName

/-- Why the content of a file cannot be had. -/
inductive FileFault where
  | missing
  | isDirectory
  /-- The way leads through a file. -/
  | notDirectory
deriving DecidableEq, Repr, Inhabited

def FileFault.message : FileFault → String
  | .missing => "No such file or directory (os error 2)"
  | .isDirectory => "Is a directory (os error 21)"
  | .notDirectory => "Not a directory (os error 20)"

/-- Files by their places, with contents. -/
abbrev FileTree := List (List String × String)

namespace FileTree

/-- The tree of named contents. -/
def ofList (files : List (String × String)) : FileTree :=
  files.map fun (path, content) => (PathName.place path, content)

/-- The content of a file. -/
def read? (tree : FileTree) (path : String) : Option String :=
  List.lookup (PathName.place path) tree

/-- Whether a file exists. -/
def isFile (tree : FileTree) (path : String) : Bool := (tree.read? path).isSome

/-- Whether a place is the start itself or above it; there is always a directory. -/
def isAbove (place : List String) : Bool := place.all (· = "..")

/-- Whether a directory exists. -/
def isDirectory (tree : FileTree) (path : String) : Bool :=
  let place := PathName.place path
  isAbove place || tree.any fun (file, _) => place.isPrefixOf file && file != place

/-- Whether a file or a directory exists. -/
def holds (tree : FileTree) (path : String) : Bool :=
  path != "" && (tree.isFile path || tree.isDirectory path)

/-- The content of a file, or why it cannot be had. -/
def content (tree : FileTree) (path : String) : Except FileFault String :=
  let place := PathName.place path
  if path = "" then .error .missing
  else match tree.read? path with
    | some content => .ok content
    | none =>
      if tree.isDirectory path then .error .isDirectory
      else if tree.any fun (file, _) => file.isPrefixOf place then .error .notDirectory
      else .error .missing

end FileTree
end EventDispatch
