import EventDispatch.Proofs.Decode.Record
import EventDispatch.Trigger.Mapping
/-!
Requests made from items.

Purpose: an item of an event becomes a request exactly if it is of the shape of its kind and a
pattern can be made of it, and the items of an event become requests one by one.

Main exports: `Attribute.coerce_text`, `ItemKind.notification_eq_ok_iff`,
`ItemKind.queue_eq_ok_iff`, `ItemKind.requests_made`.
-/

namespace EventDispatch

/-- A text that spells no value stands for itself. -/
theorem Attribute.coerce_text {name text : String} (present : text ≠ "")
    (unread : (Json.parse text).toOption = none) :
    coerce ⟨name, "String", some text⟩ = .ok (.string text) := by
  have own : spelled ⟨name, "String", some text⟩ = some text := by
    simp [spelled, present]
  unfold coerce
  simp only [own]
  cases read : Json.parse text with
  | ok v =>
      rw [read] at unread
      cases unread
  | error e => rfl

namespace ItemKind

variable {context : Context} {fresh : String} {item : Json} {q : Request}

theorem read_eq_ok_iff {ρ : Type} {trigger : String} {shape : Record Json ρ} {r : ρ} :
    read trigger shape item = .ok r ↔ shape.decode item = .ok r := by
  unfold read
  cases shape.decode item <;> simp

/-- A delivery becomes a request if the pattern of the notification in it can be made. -/
theorem notification_eq_ok_iff :
    notification.request context fresh item = .ok q ↔
      ∃ content, (notificationRecord : Record Json Json).decode item = .ok content ∧
        ∃ n, Notification.shape.decode content = .ok n ∧
          ∃ p, n.pattern = .ok p ∧ ⟨n.messageId, p, content, context⟩ = q := by
  simp only [request, bind_eq_ok_iff, read_eq_ok_iff, pure, Except.pure, Except.ok.injEq]

/-- A record of a queue becomes a request if its pattern can be made. -/
theorem queue_eq_ok_iff {unwrap : Bool} :
    (queue unwrap).request context fresh item = .ok q ↔
      ∃ r, QueueRecord.shape.decode item = .ok r ∧
        ∃ p, r.pattern unwrap = .ok p ∧ ⟨r.messageId, p, item, context⟩ = q := by
  simp only [request, bind_eq_ok_iff, read_eq_ok_iff, pure, Except.pure, Except.ok.injEq]

/-- Items become requests if the first one does and the others do. -/
theorem requests_cons_eq_ok_iff {kind : ItemKind} {supply : Nat → String} {position : Nat}
    {rest : List Json} {requests : List Request} :
    kind.requests context supply position (item :: rest) = .ok requests ↔
      ∃ q, kind.request context (supply position) item = .ok q ∧
        ∃ qs, kind.requests context supply (position + 1) rest = .ok qs ∧ q :: qs = requests := by
  simp only [ItemKind.requests, bind_eq_ok_iff, pure, Except.pure, Except.ok.injEq]

/-- Items become requests one by one, in their order. -/
theorem requests_made {kind : ItemKind} {supply : Nat → String} {position : Nat}
    {items : List Json} {requests : List Request}
    (made : kind.requests context supply position items = .ok requests) :
    requests.length = items.length ∧ ∀ i item, items[i]? = some item →
      ∃ q, requests[i]? = some q ∧ kind.request context (supply (position + i)) item = .ok q := by
  induction items generalizing position requests with
  | nil =>
      cases made
      exact ⟨rfl, by simp⟩
  | cons item rest inductionHypothesis =>
      obtain ⟨q, first, qs, later, rfl⟩ := requests_cons_eq_ok_iff.mp made
      obtain ⟨length, each⟩ := inductionHypothesis later
      refine ⟨by simp [length], ?_⟩
      intro i item' place
      cases i with
      | zero =>
          cases place
          exact ⟨q, rfl, first⟩
      | succ i =>
          have further := each i item' place
          rwa [Nat.add_assoc, Nat.add_comm 1] at further

end ItemKind
end EventDispatch
