import EventDispatch.Proofs.Trigger.Envelope
import EventDispatch.Proofs.Trigger.Gateway
import EventDispatch.Proofs.Trigger.QueueBatch
/-!
Identifiers of items.

Purpose: calls, events of the bus, notifications and records of a queue say which one they are, each
under a name of its own, and that is the id of the request that is made of them. What does not say
it is no item of its kind, with one exception: a notification may leave its identifier out, and then
the id of its request is the empty text, like that of every other such notification.

Main exports: `ItemKind.identifier?`, `ItemKind.ByName`, `ItemKind.Nameless`,
`ItemKind.identified_or_refused`, `ItemKind.id_is_identifier_unless_nameless`.
-/

namespace EventDispatch

/-! ### Where an identifier stands -/

namespace ItemKind

/-- The name under which items of a kind say which one they are. The other kinds take fresh
identifiers. -/
def identifierName : ItemKind → Option String
  | .gateway => some "requestId"
  | .bus => some "id"
  | .notification => some "MessageId"
  | .queue _ => some "messageId"
  | .storage | .custom => none

/-- How messages about the shape of an item call its kind. -/
def label : ItemKind → String
  | .gateway => "apigateway"
  | .bus => "eventbridge"
  | .storage => "s3"
  | .notification => "sns"
  | .queue _ => "sqs"
  | .custom => "custom"

/-- The part of an item in which it says so. -/
def holder? : (kind : ItemKind) → (item : Json) → Option Json
  | .gateway, item => item.get? "requestContext"
  | .notification, item => item.get? "Sns"
  | _, item => some item

/-- What an item says which one it is. -/
def identifier? (kind : ItemKind) (item : Json) : Option Json :=
  kind.identifierName.bind fun name => (kind.holder? item).bind (·.get? name)

/-- An item and the part with its identifier are told by names, not by position. -/
structure ByName (kind : ItemKind) (item : Json) : Prop where
  whole : ∀ items, item ≠ .array items
  holder : ∀ items, kind.holder? item ≠ some (.array items)

/-- A notification that does not say which one it is. -/
def Nameless (kind : ItemKind) (item : Json) : Prop :=
  kind = .notification ∧
    ∃ content, item.get? "Sns" = some (.object content) ∧ Fields.find? "MessageId" content = none

end ItemKind

/-! ### Shapes with an identifier -/

theorem holds_soleText (record field : String) :
    (soleText record field : Record Json String).Holds field Decode.string id where
  own := by
    refine ⟨.required field Decode.string fun x _ => x, by simp [soleText], ?_⟩
    intro s write read
    obtain ⟨x, decoded, rfl⟩ := (Field.read_eq_ok_iff rfl).mp read
    exact ⟨x, decoded, fun _ => rfl⟩
  others := by simp [soleText]

/-- A record of one text is read from the text under its name, if it is not given by position. -/
theorem get?_of_soleText {record field : String} {v : Json} {x : String}
    (byName : ∀ items, v ≠ .array items) (decoded : (soleText record field).decode v = .ok x) :
    v.get? field = some (.string x) := by
  obtain ⟨w, found, read⟩ :=
    (holds_soleText record field).get?_of_needed (by simp [soleText, Field.required]) byName decoded
  rw [found, Decode.string_eq_ok_iff.mp read]
  rfl

theorem BusEvent.holds_id : (shape : Record Json BusEvent).Holds "id" Decode.string id :=
  Record.holds_of_write rfl rfl (fun _ _ => rfl) (by simp [shape])

theorem Notification.holds_messageId :
    (shape : Record Json Notification).Holds "MessageId" Decode.string messageId :=
  Record.holds_of_write rfl rfl (fun _ _ => rfl) (by simp [shape])

namespace ItemKind

variable {context : Context} {fresh : String} {item : Json}

/-- Reading gives an item of its shape, or the error that it is none. -/
theorem read_cases {ρ : Type} (trigger : String) (shape : Record Json ρ) (item : Json) :
    (∃ reason, read trigger shape item = .error (.shape trigger reason)) ∨
      ∃ r, shape.decode item = .ok r ∧ read trigger shape item = .ok r := by
  unfold read
  cases shape.decode item with
  | error e => exact Or.inl ⟨e.jsonMessage, rfl⟩
  | ok r => exact Or.inr ⟨r, rfl, rfl⟩

/-- The text that an item is known by: what it says itself, or the empty text in place of the
identifier that a notification leaves out. -/
def KnownBy (kind : ItemKind) (item : Json) (id : String) : Prop :=
  kind.identifier? item = some (.string id) ∨ kind.Nameless item ∧ id = ""

/-- An item is of the shape of its kind and known by the id of any request that it becomes, or it is
refused for its shape. -/
def IdentifiedOrRefused (kind : ItemKind) (context : Context) (fresh : String) (item : Json) :
    Prop :=
  (∃ reason, kind.request context fresh item = .error (.shape kind.label reason)) ∨
    ∃ id, kind.KnownBy item id ∧ ∀ q, kind.request context fresh item = .ok q → q.id = id

/-! ### Kind by kind -/

/-- Where a request is made by reading a part of the item, what is read decides. -/
theorem identified_of_reading {kind : ItemKind} {ρ : Type} (known : ρ → String)
    {shape : Record Json ρ} {part : Json} {make : ρ → Except MappingError Request}
    (reads : kind.request context fresh item = read kind.label shape part >>= make)
    (knows : ∀ r, shape.decode part = .ok r → kind.KnownBy item (known r))
    (keeps : ∀ r q, make r = .ok q → q.id = known r) :
    kind.IdentifiedOrRefused context fresh item := by
  rcases read_cases kind.label shape part with ⟨reason, failed⟩ | ⟨r, decoded, read⟩
  · refine Or.inl ⟨reason, ?_⟩
    rw [reads, failed]
    rfl
  · refine Or.inr ⟨known r, knows r decoded, ?_⟩
    intro q made
    rw [reads, read] at made
    exact keeps r q made

theorem bus_identified (byName : bus.ByName item) : bus.IdentifiedOrRefused context fresh item := by
  apply identified_of_reading BusEvent.id rfl
  · intro event decoded
    obtain ⟨v, found, text⟩ := BusEvent.holds_id.get?_of_needed rfl byName.whole decoded
    cases Decode.string_eq_ok_iff.mp text
    exact Or.inl found
  · rintro event q ⟨⟩
    rfl

theorem queue_identified {unwrap : Bool} (byName : (queue unwrap).ByName item) :
    (queue unwrap).IdentifiedOrRefused context fresh item := by
  apply identified_of_reading QueueRecord.messageId rfl
  · intro r decoded
    obtain ⟨v, found, text⟩ := QueueRecord.holds_messageId.get?_of_needed rfl byName.whole decoded
    cases Decode.string_eq_ok_iff.mp text
    exact Or.inl found
  · intro r q made
    obtain ⟨p, -, own⟩ := bind_eq_ok_iff.mp made
    cases own
    rfl

/-- What is under the name of a notification, if it is one, says which one it is or leaves that
out. -/
theorem notification_known {content : Json} {n : Notification}
    (found : item.get? "Sns" = some content) (byName : ∀ items, content ≠ .array items)
    (decoded : Notification.shape.decode content = .ok n) :
    notification.KnownBy item n.messageId := by
  obtain ⟨fields, rfl⟩ := Record.exists_fields_of_decode byName decoded
  obtain ⟨given, blank⟩ := Notification.holds_messageId.of_decode decoded
  cases named : Fields.find? "MessageId" fields with
  | none => exact Or.inr ⟨⟨rfl, fields, found, named⟩, blank named⟩
  | some v =>
      left
      have text := Decode.string_eq_ok_iff.mp (given v named)
      simp only [identifier?, identifierName, holder?, Option.bind_some, found, Json.get?_object,
        named, text]

theorem notification_identified (byName : notification.ByName item) :
    notification.IdentifiedOrRefused context fresh item := by
  rcases read_cases "sns" notificationRecord item with ⟨reason, failed⟩ | ⟨content, held, read⟩
  · refine Or.inl ⟨reason, ?_⟩
    simp only [request, failed, bind, Except.bind, label]
  · obtain ⟨v, found, same⟩ := holds_notification.get?_of_needed rfl byName.whole held
    cases same
    have notArray : ∀ items, content ≠ .array items := by
      rintro items rfl
      exact byName.holder items found
    have reads : notification.request context fresh item
        = ItemKind.read "sns" Notification.shape content >>= fun n =>
          n.pattern >>= fun p => .ok ⟨n.messageId, p, content, context⟩ := by
      simp only [request, read]
      rfl
    apply identified_of_reading Notification.messageId reads
    · exact fun n => notification_known found notArray
    · intro n q made
      obtain ⟨p, -, own⟩ := bind_eq_ok_iff.mp made
      cases own
      rfl

/-- A call is known by the identifier that was read with it, in whichever format. -/
theorem gateway_known {ρ : Type} {shape : Record Json ρ} {requestId : ρ → String}
    (holds : shape.Holds "requestContext" (soleText "RequestContext" "requestId").decode requestId)
    (needed : (shape.fields.find? (·.name == "requestContext")).map Field.optional = some false)
    (byName : gateway.ByName item) {call : ρ} (decoded : shape.decode item = .ok call) :
    gateway.KnownBy item (requestId call) := by
  obtain ⟨inner, found, read⟩ := holds.get?_of_needed needed byName.whole decoded
  have notArray : ∀ items, inner ≠ .array items := by
    rintro items rfl
    exact byName.holder items found
  left
  simp only [identifier?, identifierName, holder?, Option.bind_some, found]
  exact get?_of_soleText notArray read

theorem gateway_identified (byName : gateway.ByName item) :
    gateway.IdentifiedOrRefused context fresh item := by
  cases named : (item.get? "httpMethod").isSome with
  | true =>
      apply identified_of_reading GatewayCall.requestId (gateway_call_reads named)
      · exact fun call => gateway_known GatewayCall.holds_requestId rfl byName
      · rintro call q ⟨⟩
        rfl
  | false =>
      cases keyed : (item.get? "routeKey").isSome with
      | true =>
          apply identified_of_reading GatewayRoute.requestId (gateway_route_reads named keyed)
          · exact fun call => gateway_known GatewayRoute.holds_requestId rfl byName
          · rintro call q ⟨⟩
            rfl
      | false =>
          refine Or.inl ⟨"unknown API Gateway payload format", ?_⟩
          simp only [request, readGateway, named, keyed, Bool.false_eq_true, if_false, bind,
            Except.bind, label]

/-- Items that say which one they are are known by the ids of their requests. -/
theorem identified_or_refused {kind : ItemKind} (context : Context) (fresh : String)
    (own : kind.identifierName.isSome = true) (byName : kind.ByName item) :
    kind.IdentifiedOrRefused context fresh item := by
  cases kind with
  | gateway => exact gateway_identified byName
  | bus => exact bus_identified byName
  | notification => exact notification_identified byName
  | queue unwrap => exact queue_identified byName
  | storage => cases own
  | custom => cases own

/-! ### Identifiers and ids -/

section Known

variable {kind : ItemKind} {q : Request}

theorem Nameless.identifier? (nameless : kind.Nameless item) : kind.identifier? item = none := by
  obtain ⟨rfl, content, found, absent⟩ := nameless
  simp only [ItemKind.identifier?, identifierName, holder?, Option.bind_some, found,
    Json.get?_object, absent]

theorem knownBy_id (own : kind.identifierName.isSome = true) (byName : kind.ByName item)
    (made : kind.request context fresh item = .ok q) : kind.KnownBy item q.id := by
  rcases identified_or_refused context fresh own byName with
    ⟨reason, refused⟩ | ⟨id, known, same⟩
  · rw [made] at refused
    cases refused
  · rw [same q made]
    exact known

theorem KnownBy.identifier?_iff {id : String} (known : kind.KnownBy item id) :
    kind.identifier? item = some (.string id) ↔ ¬ kind.Nameless item := by
  constructor
  · intro identified nameless
    rw [nameless.identifier?] at identified
    cases identified
  · exact known.resolve_right ∘ fun named both => named both.1

/-- Items that are known by one text have one identifier, unless one of them has none. -/
theorem KnownBy.same {other : Json} {id : String} (known : kind.KnownBy item id)
    (otherKnown : kind.KnownBy other id) :
    kind.identifier? item = kind.identifier? other ∨ kind.Nameless item ∨ kind.Nameless other := by
  rcases known with identified | ⟨nameless, -⟩
  · rcases otherKnown with again | ⟨nameless, -⟩
    · exact Or.inl (identified.trans again.symm)
    · exact Or.inr (Or.inr nameless)
  · exact Or.inr (Or.inl nameless)

end Known

/-- The id of a request is the identifier of its item, and an item without one is refused for its
shape, except that a notification may leave its identifier out; then the id is empty. So two records
of a batch have one id only if they have one identifier, or one of them leaves its identifier out.
-/
theorem id_is_identifier_unless_nameless {kind : ItemKind}
    (own : kind.identifierName.isSome = true) (context : Context) :
    (∀ fresh item, kind.ByName item →
      (∀ q, kind.request context fresh item = .ok q →
        (kind.identifier? item = some (.string q.id) ↔ ¬ kind.Nameless item) ∧
          (kind.Nameless item → q.id = "")) ∧
      ((∀ id, kind.identifier? item ≠ some (.string id)) → ¬ kind.Nameless item →
        ∃ reason, kind.request context fresh item = .error (.shape kind.label reason))) ∧
    (∀ supply position items requests, (∀ item ∈ items, kind.ByName item) →
      kind.requests context supply position items = .ok requests →
      ∀ (i j : Nat) (a b : Json) (q r : Request), items[i]? = some a → items[j]? = some b →
        requests[i]? = some q → requests[j]? = some r → q.id = r.id →
        kind.identifier? a = kind.identifier? b ∨ kind.Nameless a ∨ kind.Nameless b) := by
  constructor
  · intro fresh item byName
    constructor
    · intro q made
      have known := knownBy_id own byName made
      refine ⟨known.identifier?_iff, fun nameless => ?_⟩
      rcases known with identified | ⟨-, empty⟩
      · rw [nameless.identifier?] at identified
        cases identified
      · exact empty
    · intro unidentified named
      rcases identified_or_refused context fresh own byName with
        refused | ⟨id, identified | ⟨nameless, -⟩, -⟩
      · exact refused
      · exact absurd identified (unidentified id)
      · exact absurd nameless named
  · intro supply position items requests byName made i j a b q r placeA placeB placeQ placeR same
    obtain ⟨-, each⟩ := requests_made made
    have known : ∀ {i : Nat} {item : Json} {q : Request}, items[i]? = some item →
        requests[i]? = some q → kind.KnownBy item q.id := by
      intro i item q place told
      obtain ⟨q', again, madeOne⟩ := each i item place
      cases told.symm.trans again
      exact knownBy_id own (byName item (List.mem_of_getElem? place)) madeOne
    have knownB := known placeB placeR
    rw [← same] at knownB
    exact (known placeA placeQ).same knownB

/-- A call that names two formats is known by the identifier of its request. -/
theorem call_known_by_identifier :
    gateway.ByName (MapperSettings.bothFormats "GET" .null) ∧
    ∃ q, gateway.request {} "" (MapperSettings.bothFormats "GET" .null) = .ok q ∧
      gateway.identifier? (MapperSettings.bothFormats "GET" .null) = some (.string q.id) := by
  have byName : gateway.ByName (MapperSettings.bothFormats "GET" .null) :=
    ⟨fun _ => Json.noConfusion, fun _ same => Json.noConfusion (Option.some.inj same)⟩
  have made : gateway.request {} "" (MapperSettings.bothFormats "GET" .null)
      = .ok ⟨"r", gatewayPattern "GET" none none none,
          MapperSettings.bothFormats "GET" .null, {}⟩ :=
    rfl
  refine ⟨byName, _, made, ?_⟩
  have own : gateway.identifierName.isSome = true := rfl
  obtain ⟨identified, -⟩ := ((id_is_identifier_unless_nameless own {}).1 "" _ byName).1 _ made
  exact identified.mpr fun nameless => ItemKind.noConfusion nameless.1

/-- A delivery of a notification that leaves its identifier out. -/
def namelessDelivery (message : String) : Json := .object [
  ("EventSource", .string "aws:sns"),
  ("Sns", .object [
    ("Message", .string message),
    ("TopicArn", .string "arn:aws:sns:eu-west-1:123:orders"),
    ("Type", .string "Notification")])]

/-- Two notifications without identifiers become requests all the same, and with one id. -/
theorem nameless_notifications_accepted :
    notification.ByName (namelessDelivery "a") ∧ notification.ByName (namelessDelivery "b") ∧
    notification.identifier? (namelessDelivery "a") = none ∧
    notification.identifier? (namelessDelivery "b") = none ∧
    ∃ q r, notification.requests {} (fun _ => "") 0 [namelessDelivery "a", namelessDelivery "b"]
        = .ok [q, r] ∧ q.id = r.id ∧ q.data ≠ r.data := by
  have byName : ∀ message, notification.ByName (namelessDelivery message) := fun _ =>
    ⟨fun _ => Json.noConfusion, fun _ same => Json.noConfusion (Option.some.inj same)⟩
  refine ⟨byName "a", byName "b", rfl, rfl, _, _, rfl, rfl, ?_⟩
  simp [Source.json]

end ItemKind
end EventDispatch
