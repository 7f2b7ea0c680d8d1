import EventDispatch.Pattern.Order
/-!
Matching a message against the pattern of a handler.

Purpose: a full match asks for the same shape. Primitives agree in kind and value, mappings have the
same names with matching values, and sequences of one length match element by element after both
have been sorted. A partial match asks that the message holds what the handler names: every element
of a sequence, taken in order, is found among the message's elements, and every name of a mapping is
present with a value that holds what is wanted.

A match is decided no further than it has to be. Where a sequence that is reached cannot be sorted,
the match crashes, which is `none`.

Main exports: `Pattern.samePrimitive`, `Pattern.matchFully`, `Pattern.matchPartially`,
`Pattern.matchesMessage`.
-/

namespace EventDispatch.Pattern

/-- Primitives agree in kind and value; a composite agrees with nothing here. -/
def samePrimitive : Pattern → Pattern → Bool
  | .null, .null => true
  | .bool x, .bool y => x == y
  | .number x, .number y => x.sameValue y
  | .string x, .string y => x == y
  | _, _ => false

/-- A test that a message passes or not, or that crashes on it. -/
abbrev Test := Json → Option Bool

/-- Messages pass the tests at their places. -/
def passInTurn (tests : List Test) (ms : List Json) : Option Bool :=
  (tests.zip ms).allM fun (test, m) => test m

/-- Each name of a message has a test, which its value passes. The names ascend on both sides, so
that tests are passed over until the name is there. -/
def passByName : List (String × Test) → List (String × Json) → Option Bool
  | _, [] => some true
  | [], _ :: _ => some false
  | (j, test) :: tests, (k, m) :: ms =>
    if j = k then do if ← test m then passByName tests ms else return false
    else passByName tests ((k, m) :: ms)

mutual
/-- The full match of a message. -/
def matchFully : Json → Test
  | .array hs, .array ms =>
    if hs.length = ms.length then do passInTurn (← inOrder hs (fullTests hs)) (← sorted ms)
    else some false
  | .object hs, .object ms =>
    if hs.length = ms.length then passByName (fullFieldTests hs) ms else some false
  | h, m => some (samePrimitive h m)
/-- The full matches with the elements of a sequence. -/
def fullTests : List Json → List Test
  | [] => []
  | h :: hs => matchFully h :: fullTests hs
/-- The full matches with the values of a mapping, by name. -/
def fullFieldTests : List (String × Json) → List (String × Test)
  | [] => []
  | (name, h) :: hs => (name, matchFully h) :: fullFieldTests hs
end

mutual
/-- The partial match of a message. -/
def matchPartially : Json → Test
  | .array hs, .array ms => do
    (← inOrder hs (partialTests hs)).allM fun test => ms.anyM test
  | .object hs, .object ms => matchFieldsPartially ms hs
  | h, m => some (samePrimitive h m)
/-- The partial matches with the elements of a sequence. -/
def partialTests : List Json → List Test
  | [] => []
  | h :: hs => matchPartially h :: partialTests hs
/-- Every wanted name is present with a value that matches. -/
def matchFieldsPartially (ms : List (String × Json)) : List (String × Json) → Option Bool
  | [] => some true
  | (name, h) :: hs => do
    match Fields.find? name ms with
    | some m => if ← matchPartially h m then matchFieldsPartially ms hs else return false
    | none => return false
end

/-- Whether a message qualifies for a handler. -/
def matchesMessage (partially : Bool) (handler : Pattern) : Test :=
  if partially then matchPartially handler else matchFully handler

end EventDispatch.Pattern
