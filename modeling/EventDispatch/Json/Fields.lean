/-!
Fields kept in the order of their names.

Purpose: the finite maps of this library. Names are compared by code point, a name occurs at most
once, and writing a name again replaces its value.

Main exports: `Fields`, `Fields.insert`, `Fields.find?`, `Fields.ofList`, `Fields.union`,
`Fields.Sorted`.
-/

namespace EventDispatch

/-- Named values, in ascending order of their names. -/
abbrev Fields (α : Type) := List (String × α)

namespace Fields

variable {α : Type}

/-- Writes a value under a name, in its place by order. -/
def insert (name : String) (value : α) : Fields α → Fields α
  | [] => [(name, value)]
  | (n, v) :: rest =>
    if name < n then (name, value) :: (n, v) :: rest
    else if n < name then (n, v) :: insert name value rest
    else (name, value) :: rest

/-- The value under a name. -/
def find? (name : String) (fields : Fields α) : Option α := List.lookup name fields

def contains (name : String) (fields : Fields α) : Bool := (fields.find? name).isSome

def names (fields : Fields α) : List String := fields.map Prod.fst

def erase (name : String) (fields : Fields α) : Fields α := fields.filter (·.1 != name)

/-- Writes pairs one after another; of a repeated name the last value stays. -/
def ofList (pairs : List (String × α)) : Fields α :=
  pairs.foldl (fun fields pair => insert pair.1 pair.2 fields) []

/-- Writes the fields of `later` over those of `earlier`. -/
def union (earlier later : Fields α) : Fields α :=
  later.foldl (fun fields pair => insert pair.1 pair.2 fields) earlier

/-- Names ascend strictly. -/
def Sorted (fields : Fields α) : Prop := fields.names.Pairwise (· < ·)

end Fields
end EventDispatch
