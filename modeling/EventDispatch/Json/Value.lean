import EventDispatch.Json.Number
import EventDispatch.Json.Fields
/-!
JSON values.

Purpose: the dynamic values that events, payloads, replies and patterns are made of. An object keeps
its fields in ascending order of their names; `Json.WellFormed` says that it does so at every depth.

Main exports: `Json`, `Json.object`, `Json.get?`, `Json.WellFormed`.
-/

namespace EventDispatch

/-- A JSON value. -/
inductive Json where
  | null
  | bool (value : Bool)
  | number (value : Number)
  | string (value : String)
  | array (items : List Json)
  | object (fields : List (String × Json))
deriving Repr, Inhabited

namespace Json

mutual
/-- Structural equality. -/
def beq : Json → Json → Bool
  | .null, .null => true
  | .bool a, .bool b => a == b
  | .number a, .number b => sameNumber a b
  | .string a, .string b => a == b
  | .array a, .array b => beqItems a b
  | .object a, .object b => beqFields a b
  | _, _ => false
/-- Structural equality of items, position by position. -/
def beqItems : List Json → List Json → Bool
  | [], [] => true
  | a :: as, b :: bs => beq a b && beqItems as bs
  | _, _ => false
/-- Structural equality of fields, name by name. -/
def beqFields : List (String × Json) → List (String × Json) → Bool
  | [], [] => true
  | (m, a) :: as, (n, b) :: bs => m == n && beq a b && beqFields as bs
  | _, _ => false
/-- Numbers are equal when they are of one kind and of one value. -/
def sameNumber : Number → Number → Bool
  | .integer i _, .integer j _ => i == j
  | .double x, .double y => x.sameValue y
  | _, _ => false
end

instance : BEq Json := ⟨beq⟩

/-- The object that results from writing pairs one after another. -/
def ofPairs (pairs : List (String × Json)) : Json := .object (Fields.ofList pairs)

/-- The number of an integer. -/
def ofInt (i : Int) : Json := .number (Number.ofInt i)

/-- The value of a field of an object. -/
def get? (v : Json) (name : String) : Option Json :=
  match v with
  | .object fields => Fields.find? name fields
  | _ => none

/-- The items of an array. -/
def items? : Json → Option (List Json)
  | .array items => some items
  | _ => none

/-- The text of a string. -/
def string? : Json → Option String
  | .string s => some s
  | _ => none

def isNull : Json → Bool
  | .null => true
  | _ => false

mutual
/-- At every depth the names of an object ascend strictly. -/
def WellFormed : Json → Prop
  | .array items => WellFormedItems items
  | .object fields => Fields.Sorted fields ∧ WellFormedFields fields
  | _ => True
/-- Every item is well formed. -/
def WellFormedItems : List Json → Prop
  | [] => True
  | v :: vs => WellFormed v ∧ WellFormedItems vs
/-- Every value is well formed. -/
def WellFormedFields : List (String × Json) → Prop
  | [] => True
  | (_, v) :: fs => WellFormed v ∧ WellFormedFields fs
end

end Json
end EventDispatch
