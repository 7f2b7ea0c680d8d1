import EventDispatch.Message.Packet
/-!
Acknowledgements.

Purpose: what the host is told once all requests of an event have ended: nothing, one value, one
value for each request, or the identifiers of the items of a batch that failed.

Main exports: `BatchKey`, `BatchFailures`, `Acknowledgement`, `Acknowledgement.toJson`.
-/

namespace EventDispatch

/-- The name under which failed items are reported. -/
inductive BatchKey where
  | failedItems
  | batchItemFailures
deriving DecidableEq, Repr, Inhabited

namespace BatchKey

/-- The keys under their names. -/
def named : List (String × BatchKey) :=
  [("failedItems", .failedItems), ("batchItemFailures", .batchItemFailures)]

def name : BatchKey → String
  | .failedItems => "failedItems"
  | .batchItemFailures => "batchItemFailures"

def decode {σ : Type} [Source σ] (s : σ) : Decoded BatchKey :=
  Decode.choice "BatchFailureKey" named s

end BatchKey

/-- A failed item of a batch. -/
structure FailedItem where
  identifier : String
deriving DecidableEq, Repr, Inhabited

namespace FailedItem

def toJson (i : FailedItem) : Json := Json.ofPairs [("itemIdentifier", .string i.identifier)]

def shape {σ : Type} [Source σ] : Record σ FailedItem where
  name := "FailedItem"
  blank := ⟨""⟩
  fields := [.required "itemIdentifier" Decode.string fun x _ => ⟨x⟩]

def decode {σ : Type} [Source σ] (s : σ) : Decoded FailedItem := shape.decode s

end FailedItem

/-- The failed items of a batch, in ascending order of their identifiers. -/
structure BatchFailures where
  key : BatchKey
  items : List FailedItem
deriving DecidableEq, Repr, Inhabited

namespace BatchFailures

/-- The report on items with the given identifiers. -/
def ofIdentifiers (key : BatchKey) (identifiers : List String) : BatchFailures :=
  ⟨key, (identifiers.mergeSort fun a b => decide (a ≤ b)).map FailedItem.mk⟩

def identifiers (b : BatchFailures) : List String := b.items.map FailedItem.identifier

def isEmpty (b : BatchFailures) : Bool := b.items.isEmpty

end BatchFailures

/-- What the host is told. -/
inductive Acknowledgement where
  | empty
  | reply (value : Json)
  | replies (values : List Json)
  | batchFailures (failures : BatchFailures)
deriving Repr, Inhabited

namespace Acknowledgement

def isEmpty : Acknowledgement → Bool
  | .empty => true
  | _ => false

/-- The JSON value that the host receives. -/
def toJson : Acknowledgement → Json
  | .empty => .null
  | .reply v => v
  | .replies vs => .array vs
  | .batchFailures b => Json.ofPairs [(b.key.name, .array (b.items.map FailedItem.toJson))]

end Acknowledgement
end EventDispatch
