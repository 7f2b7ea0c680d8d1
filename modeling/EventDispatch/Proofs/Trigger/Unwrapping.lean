import EventDispatch.Proofs.Decode.Likeness
import EventDispatch.Proofs.Trigger.Request
/-!
Records of a queue with and without unwrapping.

Purpose: unwrapping changes the request of a record only if the body of the record is a notification
whose attributes all have values. In every other case, whatever is wrong with the body, the record
is taken as it would be without unwrapping, and so it is refused only if it would be refused anyway.

Main exports: `Attribute.exists_pattern_iff`, `Notification.SpelledBy`, `Json.IsNotification`,
`Notification.spelledBy_compact`, `QueueRecord.Carries`, `ItemKind.queue_of_carries`,
`ItemKind.queue_of_not_carries`, `ItemKind.unwrapping_only_helps`.
-/

namespace EventDispatch

/-! ### Attributes that all have values -/

namespace Attribute

/-- Attributes have values if the first one has and the others have. -/
theorem coerceAll_cons_eq_ok_iff {a : Attribute} {rest : List Attribute}
    {pairs : List (String × Json)} :
    coerceAll (a :: rest) = .ok pairs ↔
      ∃ v, a.coerce = .ok v ∧ ∃ others, coerceAll rest = .ok others ∧
        (a.name, v) :: others = pairs := by
  simp only [coerceAll, bind_eq_ok_iff, pure, Except.pure, Except.ok.injEq]

theorem exists_coerceAll_iff {attributes : List Attribute} :
    (∃ pairs, coerceAll attributes = .ok pairs) ↔ ∀ a ∈ attributes, ∃ v, a.coerce = .ok v := by
  induction attributes with
  | nil => simp [coerceAll]
  | cons a rest inductionHypothesis =>
      rw [List.forall_mem_cons, ← inductionHypothesis]
      constructor
      · rintro ⟨pairs, every⟩
        obtain ⟨v, own, others, later, _⟩ := coerceAll_cons_eq_ok_iff.mp every
        exact ⟨⟨v, own⟩, others, later⟩
      · rintro ⟨⟨v, own⟩, others, later⟩
        exact ⟨_, coerceAll_cons_eq_ok_iff.mpr ⟨v, own, others, later, rfl⟩⟩

/-- A pattern can be made of attributes if and only if each of them has a value. -/
theorem exists_pattern_iff {attributes : List Attribute} :
    (∃ p, pattern attributes = .ok p) ↔ ∀ a ∈ attributes, ∃ v, a.coerce = .ok v := by
  rw [← exists_coerceAll_iff]
  unfold pattern
  cases coerceAll attributes <;> simp [Except.map]

end Attribute

/-! ### Bodies that are notifications -/

namespace Notification

/-- A text is a notification: it is well formed, it reads as one, and it says of itself that it is a
notification of a topic. -/
structure SpelledBy (n : Notification) (text : String) : Prop where
  read : ∃ w, Written.parse text = .ok w ∧ shape.decode w = .ok n
  type : n.type = some "Notification"
  topic : ∃ name, n.topic = some name ∧ "arn:aws:sns".toList <+: name.toList

theorem isGenuine_iff {n : Notification} :
    n.isGenuine = true ↔ n.type = some "Notification" ∧
      ∃ name, n.topic = some name ∧ "arn:aws:sns".toList <+: name.toList := by
  unfold isGenuine
  rw [Bool.and_eq_true, beq_iff_eq, Option.any_eq_true]
  simp only [List.isPrefixOf_iff_prefix]

theorem ofText?_eq_some_iff {n : Notification} {text : String} :
    ofText? text = some n ↔ n.SpelledBy text := by
  constructor
  · intro found
    unfold ofText? at found
    split at found
    · rename_i w parsed
      split at found
      · rename_i m decoded
        split at found
        · rename_i genuine
          cases found
          obtain ⟨type, topic⟩ := isGenuine_iff.mp genuine
          exact ⟨⟨w, parsed, decoded⟩, type, topic⟩
        · cases found
      · cases found
    · cases found
  · rintro ⟨⟨w, parsed, decoded⟩, type, topic⟩
    have genuine : n.isGenuine = true := isGenuine_iff.mpr ⟨type, topic⟩
    unfold ofText?
    simp only [parsed, decoded, genuine, if_true]

end Notification

/-- A value says of itself that it is a notification of a topic. -/
structure Json.IsNotification (v : Json) : Prop where
  type : v.get? "Type" = some (.string "Notification")
  topic : ∃ name, v.get? "TopicArn" = some (.string name) ∧
    "arn:aws:sns".toList.isPrefixOf name.toList = true

namespace Notification

theorem holds_type :
    (shape : Record Json Notification).Holds "Type" (Decode.optional Decode.string) type :=
  Record.holds_of_write rfl rfl (fun _ _ => rfl) (by simp [shape])

theorem holds_topic :
    (shape : Record Json Notification).Holds "TopicArn" (Decode.optional Decode.string) topic :=
  Record.holds_of_write rfl rfl (fun _ _ => rfl) (by simp [shape])

theorem carries_attributeShape :
    (attributeShape : Record Json AttributeBody).Carries attributeShape where
  fields := .cons (.required Decode.Carries.string _ _)
    (.cons (.defaulted Decode.Carries.string.optional _ _) .nil)
  blank := rfl
  positional := rfl

/-- A notification is read from text as it is read from a value. -/
theorem carries_shape : (shape : Record Json Notification).Carries shape where
  fields := .cons (.defaulted Decode.Carries.string _ _)
    (.cons (.defaulted Decode.Carries.string.optional _ _)
      (.cons (.defaulted Decode.Carries.string.optional _ _)
        (.cons (.defaulted (Decode.Carries.mapOf carries_attributeShape.decode) _ _) .nil)))
  blank := rfl
  positional := rfl

/-- The text of a value that calls itself a notification is that notification. -/
theorem spelledBy_compact {v : Json} {n : Notification} (genuine : v.IsNotification)
    (decoded : shape.decode v = .ok n) : n.SpelledBy v.compact where
  read := by
    obtain ⟨w, parsed, spelled⟩ := Written.parse_compact v
    exact ⟨w, parsed, carries_shape.decode spelled decoded⟩
  type := (Except.ok.inj (holds_type.of_get? decoded genuine.type)).symm
  topic := by
    obtain ⟨name, topic, service⟩ := genuine.topic
    have own : some name = n.topic := Except.ok.inj (holds_topic.of_get? decoded topic)
    exact ⟨name, own.symm, List.isPrefixOf_iff_prefix.mp service⟩

end Notification

namespace QueueRecord

/-- The body of a record is a notification, and all attributes of the notification have values. -/
structure Carries (r : QueueRecord) (n : Notification) : Prop where
  body : n.SpelledBy r.body
  valued : ∀ a ∈ attributesOf n.attributes, ∃ v, a.coerce = .ok v

variable {r : QueueRecord}

/-- What is carried has a pattern, and the record takes it when it is unwrapped. -/
theorem Carries.pattern {n : Notification} (carries : r.Carries n) :
    ∃ p, n.pattern = .ok p ∧ r.pattern true = .ok p := by
  obtain ⟨p, made⟩ := Attribute.exists_pattern_iff.mpr carries.valued
  have own : n.pattern = .ok p := made
  have carried : r.carriedPattern? = some p := by
    unfold carriedPattern?
    rw [Notification.ofText?_eq_some_iff.mpr carries.body]
    simp only [own]
    rfl
  refine ⟨p, own, ?_⟩
  unfold QueueRecord.pattern
  rw [if_pos rfl, carried]

/-- Where nothing is carried, unwrapping makes no difference. -/
theorem pattern_of_not_carries (nothing : ∀ n, ¬ r.Carries n) :
    r.pattern true = r.pattern false := by
  have carried : r.carriedPattern? = none := by
    unfold carriedPattern?
    cases found : Notification.ofText? r.body with
    | none => rfl
    | some n =>
        cases made : n.pattern with
        | error e =>
            simp only [made]
            rfl
        | ok p =>
            have valued := Attribute.exists_pattern_iff.mp ⟨p, made⟩
            exact absurd ⟨Notification.ofText?_eq_some_iff.mp found, valued⟩ (nothing n)
  unfold QueueRecord.pattern
  rw [if_pos rfl, if_neg Bool.false_ne_true, carried]

end QueueRecord

/-! ### Requests -/

namespace ItemKind

variable (context : Context) (fresh : String) {item : Json}

/-- A record that carries a notification becomes the request of its own id and data with the pattern
of the notification. -/
theorem queue_of_carries {r : QueueRecord} {n : Notification}
    (decoded : QueueRecord.shape.decode item = .ok r) (carries : r.Carries n) :
    ∃ p, n.pattern = .ok p ∧
      (queue true).request context fresh item = .ok ⟨r.messageId, p, item, context⟩ := by
  obtain ⟨p, own, unwrapped⟩ := carries.pattern
  exact ⟨p, own, queue_eq_ok_iff.mpr ⟨r, decoded, p, unwrapped, rfl⟩⟩

/-- Any other record, and what is no record at all, is taken as it is without unwrapping. -/
theorem queue_of_not_carries
    (nothing : ∀ r n, QueueRecord.shape.decode item = .ok r → ¬ r.Carries n) :
    (queue true).request context fresh item = (queue false).request context fresh item := by
  simp only [request, read]
  cases decoded : QueueRecord.shape.decode item with
  | error e => rfl
  | ok r =>
      have same := QueueRecord.pattern_of_not_carries fun n => nothing r n decoded
      simp only [bind, Except.bind, same]

/-- With unwrapping a record becomes the same request, or is refused with the same error, as without
it, unless it carries a notification; then it is accepted, with the pattern of the notification. So
whatever its body is, a record that is accepted without unwrapping is accepted with it, and the two
requests differ in their patterns at most. -/
theorem unwrapping_only_helps (context : Context) (fresh : String) (item : Json) :
    ((∀ r n, QueueRecord.shape.decode item = .ok r → ¬ r.Carries n) →
      (queue true).request context fresh item = (queue false).request context fresh item) ∧
    (∀ r n, QueueRecord.shape.decode item = .ok r → r.Carries n → ∃ p, n.pattern = .ok p ∧
      (queue true).request context fresh item = .ok ⟨r.messageId, p, item, context⟩) ∧
    (∀ q, (queue false).request context fresh item = .ok q →
      ∃ p, (queue true).request context fresh item = .ok { q with pattern := p }) ∧
    (∀ e, (queue true).request context fresh item = .error e →
      (queue false).request context fresh item = .error e) := by
  refine ⟨queue_of_not_carries context fresh, fun r n => queue_of_carries context fresh, ?_, ?_⟩
  · intro q accepted
    by_cases carried : ∃ r n, QueueRecord.shape.decode item = .ok r ∧ r.Carries n
    · obtain ⟨r, n, decoded, carries⟩ := carried
      obtain ⟨p, -, unwrapped⟩ := queue_of_carries context fresh decoded carries
      obtain ⟨r', again, p', -, rfl⟩ := queue_eq_ok_iff.mp accepted
      cases decoded.symm.trans again
      exact ⟨p, unwrapped⟩
    · have same := queue_of_not_carries context fresh
        fun r n decoded carries => carried ⟨r, n, decoded, carries⟩
      exact ⟨q.pattern, same.trans accepted⟩
  · intro e refused
    have nothing : ∀ r n, QueueRecord.shape.decode item = .ok r → ¬ r.Carries n := by
      intro r n decoded carries
      obtain ⟨p, -, unwrapped⟩ := queue_of_carries context fresh decoded carries
      rw [unwrapped] at refused
      cases refused
    exact (queue_of_not_carries context fresh nothing).symm.trans refused

/-- A notification with one attribute. -/
def ordersNotification : Json := .object [
  ("MessageAttributes", .object [
    ("topic", .object [("Type", .string "String"), ("Value", .string "orders")])]),
  ("MessageId", .string "sns-1"),
  ("TopicArn", .string "arn:aws:sns:eu-west-1:123:orders"),
  ("Type", .string "Notification")]

/-- A record of a queue with an attribute of an unknown type. -/
def binaryRecord (body : String) : Json := .object [
  ("body", .string body),
  ("messageAttributes", .object [("topic", .object [("dataType", .string "Binary")])]),
  ("messageId", .string "sqs-1")]

theorem decode_binaryRecord (body : String) :
    QueueRecord.shape.decode (binaryRecord body)
      = .ok ⟨"sqs-1", body, [("topic", "Binary", none)]⟩ :=
  rfl

theorem isNotification_orders : ordersNotification.IsNotification :=
  ⟨rfl, "arn:aws:sns:eu-west-1:123:orders", rfl, by decide⟩

/-- The notification as it is read. -/
def orders : Notification :=
  ⟨"sns-1", some "Notification", some "arn:aws:sns:eu-west-1:123:orders",
    [("topic", "String", some "orders")]⟩

theorem decode_ordersNotification :
    Notification.shape.decode ordersNotification = .ok orders := rfl

theorem pattern_ordersNotification :
    orders.pattern = .ok (.object [("topic", .string "orders")]) := by
  have coerced : Attribute.coerce ⟨"topic", "String", some "orders"⟩ = .ok (.string "orders") :=
    Attribute.coerce_text (by decide) (by decide +kernel)
  simp only [Notification.pattern, orders, attributesOf, List.map_cons, List.map_nil,
    Attribute.pattern, Attribute.coerceAll, coerced]
  rfl

/-- A record that is refused for its own attribute is accepted for the notification in its body. -/
theorem refused_record_unwrapped :
    (queue true).request {} "" (binaryRecord ordersNotification.compact)
      = .ok ⟨"sqs-1", .object [("topic", .string "orders")],
        binaryRecord ordersNotification.compact, {}⟩ ∧
    (queue false).request {} "" (binaryRecord ordersNotification.compact)
      = .error (.attributeType "Binary") := by
  have carries : QueueRecord.Carries
      ⟨"sqs-1", ordersNotification.compact, [("topic", "Binary", none)]⟩ orders :=
    ⟨Notification.spelledBy_compact isNotification_orders decode_ordersNotification,
      Attribute.exists_pattern_iff.mp ⟨_, pattern_ordersNotification⟩⟩
  obtain ⟨_, unwrapped, _, _⟩ :=
    unwrapping_only_helps {} "" (binaryRecord ordersNotification.compact)
  obtain ⟨p, pattern, accepted⟩ := unwrapped _ _ (decode_binaryRecord _) carries
  cases pattern_ordersNotification.symm.trans pattern
  exact ⟨accepted, rfl⟩

end ItemKind
end EventDispatch
