import EventDispatch.Arithmetic
import EventDispatch.Decode.Fault
/-!
Decoders.

Purpose: typed values from documents. Leaves are decoded by kind. A record is decoded from a
mapping, whose entries are visited in their order, or from a sequence, by position; a field that may
be left out keeps the value of the blank record.

Main exports: `Decode.string`, `Decode.bool`, `Decode.integer`, `Decode.real`, `Decode.optional`,
`Decode.listOf`, `Decode.mapOf`, `Decode.choice`, `Record`, `Record.decode`.
-/

namespace EventDispatch

open scoped Arithmetic

namespace Decode

variable {σ α : Type} [Source σ]

/-- Refuses a document of another kind than expected. -/
def refuse (s : σ) (expected : Expected) : Decoded α :=
  .error (.here (.mismatch (Source.view s).found expected))

def string (s : σ) : Decoded String :=
  match Source.view s with
  | .string x => .ok x
  | _ => refuse s (.phrase "a string")

/-- A string that names a file. -/
def path (s : σ) : Decoded String :=
  match Source.view s with
  | .string x => .ok x
  | _ => refuse s (.phrase "path string")

def bool (s : σ) : Decoded Bool :=
  match Source.view s with
  | .bool x => .ok x
  | _ => refuse s (.phrase "a boolean")

/-- A range of integers with the name that messages use for it. -/
structure IntRange where
  name : String
  low : Int
  high : Int
deriving DecidableEq, Repr, Inhabited

def unsigned8 : IntRange := ⟨"u8", 0, 2 ^ (8 : Nat) - 1⟩
def unsigned32 : IntRange := ⟨"u32", 0, 2 ^ (32 : Nat) - 1⟩
def unsigned64 : IntRange := ⟨"u64", 0, 2 ^ (64 : Nat) - 1⟩
def signed32 : IntRange := ⟨"i32", -2 ^ (31 : Nat), 2 ^ (31 : Nat) - 1⟩
def signed64 : IntRange := ⟨"i64", -2 ^ (63 : Nat), 2 ^ (63 : Nat) - 1⟩

/-- An integer of a range. A double is never an integer, whatever its value. -/
def integer (range : IntRange) (s : σ) : Decoded Int :=
  match Source.view s with
  | .integer i signed =>
    if range.low ≤ i ∧ i ≤ range.high then .ok i
    else .error (.here (.outOfRange i signed range.name))
  | _ => refuse s (.phrase range.name)

/-- A word of 32 bits. -/
def word32 (s : σ) : Decoded UInt32 :=
  (integer unsigned32 s).map fun i => UInt32.ofNat i.toNat

/-- A word of 64 bits. -/
def word64 (s : σ) : Decoded UInt64 :=
  (integer unsigned64 s).map fun i => UInt64.ofNat i.toNat

/-- A double; an integer becomes the nearest one. -/
def real (s : σ) : Decoded Double :=
  match Source.view s with
  | .real x => .ok x
  | .integer i _ => .ok (Double.ofInt i)
  | _ => refuse s (.phrase "f64")

/-- Null, or a value. -/
def optional (decode : σ → Decoded α) (s : σ) : Decoded (Option α) :=
  match Source.view s with
  | .null => .ok none
  | _ => (decode s).map some

/-- Any document at all, as JSON. -/
def any (s : σ) : Decoded Json := .ok (Source.json s)

/-- Runs a decoder below a name or position. -/
def under (step : String) (result : Decoded α) : Decoded α :=
  result.mapError (DecodeError.under step)

/-- The elements from a position on, in order. -/
def items (decode : σ → Decoded α) : (position : Nat) → List σ → Decoded (List α)
  | _, [] => .ok []
  | position, s :: rest => do
    let x ← under (toString position) (decode s)
    let xs ← items decode (position + 1) rest
    return x :: xs

/-- A sequence of values. -/
def listOf (decode : σ → Decoded α) (s : σ) : Decoded (List α) :=
  match Source.view s with
  | .sequence xs => items decode 0 xs
  | _ => refuse s (.phrase "a sequence")

/-- The entries of a mapping, in order. -/
def entries (decode : σ → Decoded α) : List (String × σ) → Decoded (List (String × α))
  | [] => .ok []
  | (name, s) :: rest => do
    let x ← under name (decode s)
    let xs ← entries decode rest
    return (name, x) :: xs

/-- A mapping from names to values. -/
def mapOf (decode : σ → Decoded α) (s : σ) : Decoded (Fields α) :=
  match Source.view s with
  | .mapping fields => (entries decode fields).map Fields.ofList
  | _ => refuse s (.phrase "a map")

/-- The choice of a name. -/
def choiceNamed (known : List (String × α)) (name : String) : Decoded α :=
  match known.lookup name with
  | some x => .ok x
  | none => .error (.here (.unknownChoice name (known.map Prod.fst)))

/-- One of several named choices, given by its name or as a mapping from its name to null. -/
def choice (type : String) (known : List (String × α)) (s : σ) : Decoded α :=
  match Source.view s with
  | .string name => choiceNamed known name
  | .mapping [] =>
    if Source.exact σ then .error (.here .notOneEntry) else refuse s (.phrase "enum")
  | .mapping ((name, content) :: more) =>
    if Source.exact σ && !more.isEmpty then .error (.here .notOneEntry)
    else do
      let x ← choiceNamed known name
      match Source.view content with
      | .null => return x
      | _ => under name (refuse content (.phrase "unit"))
  | _ => refuse s (.choice type)

end Decode

/-- A field of a record: its name, whether it may be left out, and how its value is written into the
record. -/
structure Field (σ ρ : Type) where
  name : String
  optional : Bool
  read : σ → Decoded (ρ → ρ)

namespace Field

variable {σ ρ α : Type}

/-- A field that must be present. -/
def required (name : String) (decode : σ → Decoded α) (write : α → ρ → ρ) : Field σ ρ :=
  ⟨name, false, fun s => (decode s).map write⟩

/-- A field that may be left out. -/
def defaulted (name : String) (decode : σ → Decoded α) (write : α → ρ → ρ) : Field σ ρ :=
  ⟨name, true, fun s => (decode s).map write⟩

end Field

/-- The shape of a record: its name in messages, its fields in order, the record before any field is
read, and whether it may be given as a sequence. -/
structure Record (σ ρ : Type) where
  name : String
  fields : List (Field σ ρ)
  blank : ρ
  positional : Bool := true

namespace Record

variable {σ ρ : Type} [Source σ]

/-- The first field that must be present and has not been seen. -/
def missing? (shape : Record σ ρ) (seen : List String) : Option String :=
  (shape.fields.find? fun f => !f.optional && !seen.contains f.name).map Field.name

/-- Reads the entries of a mapping in their order. Unknown names are passed over. -/
def readEntries (shape : Record σ ρ) : List (String × σ) → (seen : List String) → ρ → Decoded ρ
  | [], seen, r => match shape.missing? seen with
    | some name => .error (.here (.missing name))
    | none => .ok r
  | (name, s) :: rest, seen, r =>
    match shape.fields.find? (fun f => f.name == name) with
    | none => shape.readEntries rest seen r
    | some f =>
      if seen.contains name then .error (.here (.repeated name))
      else do
        let write ← Decode.under name (f.read s)
        shape.readEntries rest (name :: seen) (write r)

/-- Reads the elements of a sequence, of `length` elements in all, into the fields by position. -/
def readItems (shape : Record σ ρ) (length : Nat) :
    List (Field σ ρ) → (position : Nat) → List σ → ρ → Decoded ρ
  | [], _, rest, r =>
    if Source.exact σ && !rest.isEmpty then .error (.here (.tooLong length)) else .ok r
  | f :: fs, position, [], r =>
    if f.optional then shape.readItems length fs (position + 1) [] r
    else .error (.here (.tooShort position shape.name shape.fields.length))
  | f :: fs, position, s :: rest, r => do
    let write ← Decode.under (toString position) (f.read s)
    shape.readItems length fs (position + 1) rest (write r)

/-- Decodes a record. -/
def decode (shape : Record σ ρ) (s : σ) : Decoded ρ :=
  match Source.view s with
  | .mapping entries => shape.readEntries entries [] shape.blank
  | .sequence items =>
    if shape.positional then shape.readItems items.length shape.fields 0 items shape.blank
    else Decode.refuse s (.record shape.name)
  | _ => Decode.refuse s (.record shape.name)

end Record
end EventDispatch
