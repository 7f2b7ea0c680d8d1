import EventDispatch.Config.Document
/-!
Tables of a TOML document under construction.

Purpose: a document is built from headers and assignments in their order. Each name may be given a
value once, a header may open a table once, a header of a list of tables opens the next table of the
list, and a value is closed to later headers and assignments.

Main exports: `Toml.Entry`, `Toml.Statement`, `Toml.assemble`.
-/

namespace EventDispatch.Toml

/-- How a table came to be. -/
inductive Origin where
  /-- By a longer header. -/
  | implied
  /-- By its own header. -/
  | headed
  /-- By a dotted name. -/
  | dotted
deriving DecidableEq, Repr, Inhabited

/-- What stands under a name. -/
inductive Entry where
  | value (document : Document)
  | table (origin : Origin) (entries : List (String × Entry))
  /-- A list of tables, the newest first. -/
  | tables (newest : List (String × Entry)) (older : List (List (String × Entry)))
deriving Repr, Inhabited

/-- A part of a document. -/
inductive Statement where
  | header (path : List String)
  | listHeader (path : List String)
  | assignment (path : List String) (value : Document)
deriving Repr, Inhabited

/-- Changes the table below a path; tables that are missing on the way come into being. -/
def modify (origin : Origin) (change : Fields Entry → Option (Fields Entry)) :
    (path : List String) → Fields Entry → Option (Fields Entry)
  | [], entries => change entries
  | name :: path, entries => match entries.find? name with
    | none => (modify origin change path []).map fun below =>
      entries.insert name (.table origin below)
    | some (.table given below) =>
      if origin = .dotted ∧ given = .headed then none
      else (modify origin change path below).map fun below =>
        entries.insert name (.table given below)
    | some (.tables newest older) =>
      if origin = .dotted then none
      else (modify origin change path newest).map fun newest =>
        entries.insert name (.tables newest older)
    | some (.value _) => none

/-- Opens the table of a header. -/
def openTable (name : String) (entries : Fields Entry) : Option (Fields Entry) :=
  match entries.find? name with
  | none => some (entries.insert name (.table .headed []))
  | some (.table .implied below) => some (entries.insert name (.table .headed below))
  | some _ => none

/-- Opens the next table of a list. -/
def openNext (name : String) (entries : Fields Entry) : Option (Fields Entry) :=
  match entries.find? name with
  | none => some (entries.insert name (.tables [] []))
  | some (.tables newest older) => some (entries.insert name (.tables [] (newest :: older)))
  | some _ => none

/-- Writes a value under a name that is still free. -/
def assign (name : String) (value : Document) (entries : Fields Entry) : Option (Fields Entry) :=
  match entries.find? name with
  | none => some (entries.insert name (.value value))
  | some _ => none

/-- The steps before the last one, and the last. -/
def splitLast : List String → Option (List String × String)
  | [] => none
  | [name] => some ([], name)
  | name :: path => (splitLast path).map fun (front, last) => (name :: front, last)

/-- Carries out a statement below the header that is open, and tells the open header. -/
def execute (header : List String) (entries : Fields Entry) :
    Statement → Option (List String × Fields Entry)
  | .header path => do
    let (front, last) ← splitLast path
    return (path, ← modify .implied (openTable last) front entries)
  | .listHeader path => do
    let (front, last) ← splitLast path
    return (path, ← modify .implied (openNext last) front entries)
  | .assignment path value => do
    let (front, last) ← splitLast path
    return (header, ← modify .implied (modify .dotted (assign last value) front) header entries)

/-- Carries out statements in order. -/
def executeAll (header : List String) (entries : Fields Entry) :
    List Statement → Option (Fields Entry)
  | [] => some entries
  | s :: rest => do
    let (header, entries) ← execute header entries s
    executeAll header entries rest

mutual
/-- The document of an entry. -/
def Entry.document : Entry → Document
  | .value d => d
  | .table _ entries => .mapping (documents entries)
  | .tables newest older =>
    .sequence ((.mapping (documents newest) :: olderDocuments older).reverse)
/-- The documents of entries. -/
def documents : List (String × Entry) → List (String × Document)
  | [] => []
  | (name, e) :: rest => (name, e.document) :: documents rest
/-- The documents of the older tables of a list. -/
def olderDocuments : List (List (String × Entry)) → List Document
  | [] => []
  | entries :: rest => .mapping (documents entries) :: olderDocuments rest
end

/-- The document of statements; nothing when they contradict each other. -/
def assemble (statements : List Statement) : Option Document :=
  (executeAll [] [] statements).map fun entries => .mapping (documents entries)

end EventDispatch.Toml
