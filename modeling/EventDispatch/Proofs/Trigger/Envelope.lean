import EventDispatch.Proofs.Trigger.Unwrapping
import EventDispatch.Handler.Registry
/-!
Notifications in queues.

Purpose: a notification that is delivered through a queue stands as text in the body of a record.
With unwrapping the record becomes a request with the pattern that the notification would have on
its own, since reading the text gives what looking at the value gives; the record's own attributes
play no part.

Main exports: `ItemKind.queued_notification_routes_alike`.
-/

namespace EventDispatch

theorem holds_notification :
    (notificationRecord : Record Json Json).Holds "Sns" Decode.any id :=
  Record.holds_of_write rfl rfl (fun _ _ => rfl) (by simp [notificationRecord])

namespace ItemKind

variable {context : Context} {fresh : String}

/-- A delivery that becomes a request has a notification under its name. -/
theorem notification_request {delivery v : Json} {q : Request}
    (delivered : delivery.get? "Sns" = some v)
    (built : notification.request context fresh delivery = .ok q) :
    ∃ n : Notification, Notification.shape.decode v = .ok n ∧ n.pattern = .ok q.pattern := by
  obtain ⟨content, held, n, decoded, p, pattern, rfl⟩ := notification_eq_ok_iff.mp built
  obtain rfl : v = content := Except.ok.inj (holds_notification.of_get? held delivered)
  exact ⟨n, decoded, pattern⟩

/-- With unwrapping, a record whose body is the text of a notification takes the pattern of the
notification, whatever its own attributes are. -/
theorem queue_request {v record : Json} {n : Notification} {r : QueueRecord} {p : Pattern}
    (genuine : v.IsNotification) (decoded : Notification.shape.decode v = .ok n)
    (pattern : n.pattern = .ok p) (own : QueueRecord.shape.decode record = .ok r)
    (body : r.body = v.compact) :
    (queue true).request context fresh record = .ok ⟨r.messageId, p, record, context⟩ := by
  have carries : r.Carries n :=
    ⟨body ▸ Notification.spelledBy_compact genuine decoded,
      Attribute.exists_pattern_iff.mp ⟨p, pattern⟩⟩
  obtain ⟨p', again, made⟩ := queue_of_carries context fresh own carries
  cases pattern.symm.trans again
  exact made

/-- A notification that is delivered on its own becomes a request; then every record of a queue
whose body is the text of the notification becomes a request with the same pattern, whatever the
record's own attributes are, and every registry resolves both to the same handler. -/
theorem queued_notification_routes_alike {v delivery record : Json} {r : QueueRecord}
    {q : Request} (genuine : v.IsNotification) (delivered : delivery.get? "Sns" = some v)
    (built : notification.request context fresh delivery = .ok q)
    (own : QueueRecord.shape.decode record = .ok r) (body : r.body = v.compact)
    (context' : Context) (fresh' : String) :
    ∃ q', (queue true).request context' fresh' record = .ok q' ∧ q'.id = r.messageId ∧
      q'.pattern = q.pattern ∧ ∀ g : Registry, g.resolve q'.pattern = g.resolve q.pattern := by
  obtain ⟨n, decoded, pattern⟩ := notification_request delivered built
  exact ⟨_, queue_request genuine decoded pattern own body, rfl, rfl, fun _ => rfl⟩

/-- With the notification in its body the record is routed by the attribute of the notification. -/
theorem binaryRecord_routed :
    ∃ q, (queue true).request {} "" (binaryRecord ordersNotification.compact) = .ok q ∧
      q.pattern = .object [("topic", .string "orders")] := by
  have held : (notificationRecord : Record Json Json).decode (.object [("Sns", ordersNotification)])
      = .ok ordersNotification := rfl
  have built : notification.request {} "" (.object [("Sns", ordersNotification)])
      = .ok ⟨"sns-1", .object [("topic", .string "orders")], ordersNotification, {}⟩ :=
    notification_eq_ok_iff.mpr
      ⟨_, held, _, decode_ordersNotification, _, pattern_ordersNotification, rfl⟩
  obtain ⟨q, made, _, routed, _⟩ := queued_notification_routes_alike isNotification_orders rfl built
    (decode_binaryRecord ordersNotification.compact) rfl {} ""
  exact ⟨q, made, routed⟩

end ItemKind
end EventDispatch
