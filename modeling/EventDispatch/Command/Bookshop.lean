import EventDispatch.Handler.Group
import EventDispatch.Handler.Reply
/-!
The handlers of the command.

Purpose: a small set of handlers to try events on: a list of books and a way to add one, a queue
whose poisonous messages are refused, a topic whose messages are counted by their identifiers, and
an answer to everything else.

Main exports: `Bookshop.groups`.
-/

namespace EventDispatch.Bookshop

/-- The text of a queued message. -/
def body {σ : Type} [Source σ] : Record σ String where
  name := "SqsBody"
  blank := ""
  fields := [.required "body" Decode.string fun x _ => x]

/-- The books that there are. -/
def books : Json :=
  .array (["Dune", "Solaris"].map fun title => Json.ofPairs [("title", .string title)])

/-- Replies the text of a queued message, and refuses a poisonous one. -/
def process : Handler := .ofFunction fun request => do
  let text ← Handler.payload "switchyard_invoke::SqsBody" body.decode request
  return if text = "poison" then .error (.own (.refusal "cannot process"))
    else .ok (.value (.string text))

/-- Tells which order was seen. -/
def orderSeen : Handler := fun request => .replied (.string ("seen " ++ request.id))

/-- A reply that is always the same. -/
def constant (value : Json) : Handler := fun _ => .replied value

/-- The pattern of a route. -/
def route (method : String) : Pattern :=
  Json.ofPairs [("httpMethod", .string method), ("resource", .string "/books")]

/-- The pattern of one attribute. -/
def oneAttribute (name value : String) : Pattern := Json.ofPairs [(name, .string value)]

/-- The handlers in the order of their registration. -/
def groups : List Group := [
  { name := some "books", partialMatch := true, entries := [
      { pattern := route "GET", handler := constant books },
      { pattern := route "POST", handler := constant (.string "created") }] },
  { name := some "queue", entries := [
      { pattern := oneAttribute "command" "process", handler := process },
      { pattern := oneAttribute "topic" "orders", handler := orderSeen }] },
  { name := some "fallback", entries := [
      { pattern := Pattern.catchAll, handler := constant (.string "Results") }] }]

end EventDispatch.Bookshop
