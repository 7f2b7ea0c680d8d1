import EventDispatch.Proofs.Service.ScheduleIndependence
import EventDispatch.Proofs.Trigger.Request
/-!
How the outcomes of an event are acknowledged.

Purpose: the kind of an event decides which items become requests and what the host is told about
their outcomes. One request is answered by its value or its error. A batch of the store or an event
of the bus is answered by nothing and a batch of notifications by all values in the order of the
records, unless a request failed: then the first error in the order of the requests takes their
place. A batch of a queue never ends in an error.

Main exports: `Trigger.items`, `Trigger.Contract`, `MapperSettings.map_eq`,
`MapperSettings.requests_of_map`, `Settled.values_cases`, `MapperSettings.acknowledged_by_trigger`.
-/

namespace EventDispatch

/-! ### The requests of an event -/

namespace Trigger

/-- The items that an event is split into: its records, or the event itself. -/
def items (event : Json) : List Json :=
  match detect event with
  | .s3 | .sns | .sqs => records event
  | _ => [event]

/-- How the items of an event are looked at. -/
def itemKind (settings : MapperSettings) : Trigger → ItemKind
  | .apiGatewayV1 | .apiGatewayV2 => .gateway
  | .eventBridge => .bus
  | .s3 => .storage
  | .sns => .notification
  | .sqs => .queue settings.unwrapEnvelopes
  | .dynamoDb | .kinesis | .custom => .custom

/-- How the outcomes of an event are acknowledged. -/
def responder (settings : MapperSettings) : Trigger → Responder
  | .eventBridge | .s3 => .fireAndForget
  | .sns => .multiReply
  | .sqs => .failureReport settings.batchKey
  | .apiGatewayV1 | .apiGatewayV2 | .dynamoDb | .kinesis | .custom => .singleReply

/-- The kind that an event is dispatched as. -/
def shown : Trigger → Trigger
  | .dynamoDb | .kinesis => .custom
  | trigger => trigger

end Trigger

namespace MapperSettings

variable {settings : MapperSettings} {fresh : Nat → String} {context : Context} {event : Json}
  {mapped : MappedEvent}

/-- The settings may ask for the refusal of a source whose records are not looked into. -/
def refusal? (settings : MapperSettings) : Trigger → Option MappingError
  | .dynamoDb => if settings.unknownSources = .reject then some (.source "dynamodb") else none
  | .kinesis => if settings.unknownSources = .reject then some (.source "kinesis") else none
  | _ => none

/-- An event whose source is not refused becomes the requests of its items, if they can all be
made, with the way to acknowledge them that belongs to its kind. -/
theorem map_eq (settings : MapperSettings) (fresh : Nat → String) (context : Context)
    (event : Json) :
    settings.map fresh context event = match settings.refusal? (Trigger.detect event) with
      | some e => .error e
      | none => (((Trigger.detect event).itemKind settings).requests context fresh 0
          (Trigger.items event)).map
            (⟨(Trigger.detect event).shown, ·, (Trigger.detect event).responder settings⟩) := by
  unfold map Trigger.items
  cases kind : Trigger.detect event with
  | dynamoDb | kinesis =>
      cases unknown : settings.unknownSources <;> simp only [unknown, refusal?] <;> rfl
  | _ => rfl

/-- An event that is accepted becomes the requests of its items, with the way to acknowledge them
that belongs to its kind. -/
theorem requests_of_map (accepted : settings.map fresh context event = .ok mapped) :
    ((Trigger.detect event).itemKind settings).requests context fresh 0 (Trigger.items event)
        = .ok mapped.requests ∧
      mapped.responder = (Trigger.detect event).responder settings := by
  rw [map_eq] at accepted
  cases refused : settings.refusal? (Trigger.detect event) with
  | some e =>
      rw [refused] at accepted
      cases accepted
  | none =>
      simp only [refused] at accepted
      cases made : ((Trigger.detect event).itemKind settings).requests context fresh 0
          (Trigger.items event) with
      | error e =>
          rw [made] at accepted
          cases accepted
      | ok qs =>
          rw [made] at accepted
          cases accepted
          exact ⟨rfl, rfl⟩

end MapperSettings

/-! ### Values and the first error -/

/-- An error is the outcome of the first request that failed. -/
def FailsFirst (outcomes : List Outcome) (error : CorrelationError) : Prop :=
  ∃ (values : List Json) (rest : List Outcome),
    outcomes = values.map Except.ok ++ .error error :: rest

/-- Either all outcomes are values, or there is a first error. -/
theorem Settled.values_cases (settled : List Settled) :
    (∃ values, Settled.values settled = .ok values ∧
      settled.map Settled.outcome = values.map Except.ok) ∨
    ∃ error, Settled.values settled = .error error ∧
      FailsFirst (settled.map Settled.outcome) error := by
  induction settled with
  | nil => exact Or.inl ⟨[], rfl, rfl⟩
  | cons s rest inductionHypothesis =>
      unfold Settled.values
      rw [List.map_cons]
      cases outcome : s.outcome with
      | error error => exact Or.inr ⟨error, rfl, [], _, rfl⟩
      | ok value =>
          rcases inductionHypothesis with ⟨values, read, all⟩ | ⟨error, read, before, after, split⟩
          · rw [read, all]
            exact Or.inl ⟨value :: values, rfl, rfl⟩
          · rw [read, split]
            exact Or.inr ⟨error, rfl, value :: before, after, rfl⟩

/-- What stands for all requests of an event: the acknowledgement of their values, unless one of
them failed; then it is the error of the first one that did. -/
structure AllOrFirst (acknowledge : List Json → Acknowledgement) (outcomes : List Outcome)
    (result : Except DispatchError Acknowledgement) : Prop where
  fails : (∃ e, result = .error e) ↔ ∃ outcome ∈ outcomes, ∃ error, outcome = .error error
  first : ∀ e, result = .error e → ∃ error, e = .correlation error ∧ FailsFirst outcomes error
  succeeds : ∀ a, result = .ok a →
    ∃ values : List Json, outcomes = values.map Except.ok ∧ a = acknowledge values

theorem allOrFirst_values (acknowledge : List Json → Acknowledgement) (settled : List Settled) :
    AllOrFirst acknowledge (settled.map Settled.outcome)
      (((Settled.values settled).map acknowledge).mapError .correlation) := by
  rcases Settled.values_cases settled with ⟨values, read, all⟩ | ⟨error, read, failed⟩
  · rw [read, all]
    refine ⟨?_, ?_, ?_⟩
    · simp [Except.map, Except.mapError]
    · intro e fails
      cases fails
    · intro a told
      cases told
      exact ⟨values, rfl, rfl⟩
  · rw [read]
    refine ⟨?_, ?_, ?_⟩
    · obtain ⟨before, after, split⟩ := failed
      rw [split]
      exact ⟨fun _ => ⟨.error error, by simp, error, rfl⟩, fun _ => ⟨_, rfl⟩⟩
    · intro e fails
      cases fails
      exact ⟨error, rfl, failed⟩
    · intro a told
      cases told

/-! ### The contract -/

namespace MappedEvent

/-- The requests with their outcomes, in order. -/
def settle (mapped : MappedEvent) (outcomes : List Outcome) : List Settled :=
  List.zipWith Settled.mk mapped.requests outcomes

/-- What the host is told about the outcomes. -/
def result (mapped : MappedEvent) (outcomes : List Outcome) :
    Except DispatchError Acknowledgement :=
  (mapped.responder.acknowledge (mapped.settle outcomes)).mapError .correlation

theorem map_outcome_settle {mapped : MappedEvent} {outcomes : List Outcome}
    (each : outcomes.length = mapped.requests.length) :
    (mapped.settle outcomes).map Settled.outcome = outcomes := by
  unfold settle
  rw [List.map_zipWith]
  apply List.ext_getElem
  · simp [each]
  · intro i here there
    simp

/-- This is the result of the event once all its requests have come to their outcomes. -/
theorem result?_eq_result (mapped : MappedEvent) (outcomes : List Outcome) :
    Dispatch.result? ⟨mapped.responder,
        List.zipWith (fun q outcome => ⟨q, .settled outcome⟩) mapped.requests outcomes⟩
      = some (mapped.result outcomes) := by
  have settled : Pursuit.allSettled?
      (List.zipWith (fun q outcome => ⟨q, .settled outcome⟩) mapped.requests outcomes)
        = some (mapped.settle outcomes) := by
    unfold settle
    rw [Pursuit.allSettled?_eq_some_iff, List.map_zipWith, List.map_zipWith]
    rfl
  rw [Dispatch.result?, settled]
  rfl

end MappedEvent

/-- What the host is told about the outcomes of an event of each kind. -/
def Trigger.Contract (outcomes : List Outcome) (result : Except DispatchError Acknowledgement) :
    Trigger → Prop
  | .apiGatewayV1 | .apiGatewayV2 | .dynamoDb | .kinesis | .custom =>
    ∃ outcome, outcomes = [outcome] ∧
      result = (outcome.map Acknowledgement.reply).mapError .correlation
  | .eventBridge | .s3 => AllOrFirst (fun _ => .empty) outcomes result
  | .sns => AllOrFirst .replies outcomes result
  | .sqs => ∃ report, result = .ok (.batchFailures report)

namespace MapperSettings

variable {settings : MapperSettings} {fresh : Nat → String} {context : Context} {event : Json}
  {mapped : MappedEvent} {outcomes : List Outcome}

/-- Every event that is accepted becomes one request for each of its items, in their order, and
whatever the outcomes of the requests are, the event comes to what the host is told, and the host is
told what belongs to the kind of the event. -/
theorem acknowledged_by_trigger (accepted : settings.map fresh context event = .ok mapped)
    (each : outcomes.length = mapped.requests.length) :
    (mapped.requests.length = (Trigger.items event).length ∧
      ∀ i item, (Trigger.items event)[i]? = some item → ∃ q, mapped.requests[i]? = some q ∧
        ((Trigger.detect event).itemKind settings).request context (fresh i) item = .ok q) ∧
    Dispatch.result? ⟨mapped.responder,
        List.zipWith (fun q outcome => ⟨q, .settled outcome⟩) mapped.requests outcomes⟩
      = some (mapped.result outcomes) ∧
    (Trigger.detect event).Contract outcomes (mapped.result outcomes) := by
  obtain ⟨requests, responder⟩ := requests_of_map accepted
  have made := ItemKind.requests_made requests
  simp only [Nat.zero_add] at made
  refine ⟨made, mapped.result?_eq_result outcomes, ?_⟩
  have all := MappedEvent.map_outcome_settle each
  have single : (Trigger.items event).length = 1 →
      ∃ q outcome, mapped.settle outcomes = [⟨q, outcome⟩] ∧ outcomes = [outcome] := by
    intro one
    obtain ⟨q, own⟩ := List.length_eq_one_iff.mp (made.1.trans one)
    obtain ⟨outcome, answer⟩ := List.length_eq_one_iff.mp (each.trans (made.1.trans one))
    exact ⟨q, outcome, by rw [MappedEvent.settle, own, answer]; rfl, answer⟩
  unfold MappedEvent.result
  rw [responder]
  cases kind : Trigger.detect event with
  | eventBridge | s3 =>
      have told := allOrFirst_values (fun _ => .empty) (mapped.settle outcomes)
      rwa [all] at told
  | sns =>
      have told := allOrFirst_values .replies (mapped.settle outcomes)
      rwa [all] at told
  | sqs => exact ⟨_, rfl⟩
  | _ =>
      obtain ⟨q, outcome, settled, answer⟩ := single (by simp [Trigger.items, kind])
      rw [settled, answer]
      exact ⟨outcome, rfl, rfl⟩

/-- A record with a notification without attributes. -/
def bareNotification (id : String) : Json :=
  .object [("EventSource", .string "aws:sns"), ("Sns", .object [("MessageId", .string id)])]

/-- A batch of three such records. -/
def bareNotifications : Json :=
  .object [("Records", .array (["a", "b", "c"].map bareNotification))]

/-- Outcomes of which the first is a value and the others are errors. -/
def mixedOutcomes : List Outcome :=
  [.ok .null, .error ⟨"b", .broker .noConsumer⟩, .error ⟨"c", .broker (.closed "c")⟩]

/-- The first notification is handled and the others fail: the host is told the error of the second
one. -/
theorem second_notification_fails :
    ∃ mapped, MapperSettings.map {} (fun _ => "") {} bareNotifications = .ok mapped ∧
      mapped.result mixedOutcomes = .error (.correlation ⟨"b", .broker .noConsumer⟩) := by
  have single : ∀ id, ItemKind.notification.request {} "" (bareNotification id)
      = .ok ⟨id, .object [], .object [("MessageId", .string id)], {}⟩ := by
    intro id
    cbv
  have kind : Trigger.detect bareNotifications = .sns := by rfl
  have accepted : MapperSettings.map {} (fun _ => "") {} bareNotifications = .ok ⟨.sns,
      ["a", "b", "c"].map fun id => ⟨id, .object [], .object [("MessageId", .string id)], {}⟩,
      .multiReply⟩ := by
    have records : Trigger.records bareNotifications = ["a", "b", "c"].map bareNotification := rfl
    simp only [map, kind, mapBatch, records, List.map_cons, List.map_nil, ItemKind.requests, single,
      bind, Except.bind, pure, Except.pure, Except.map]
  refine ⟨_, accepted, ?_⟩
  obtain ⟨-, -, told⟩ := acknowledged_by_trigger accepted (show mixedOutcomes.length = 3 from rfl)
  rw [kind] at told
  obtain ⟨e, failed⟩ := told.fails.mpr ⟨_, List.mem_cons_of_mem _ List.mem_cons_self, _, rfl⟩
  obtain ⟨error, rfl, before, after, split⟩ := told.first e failed
  rw [failed]
  cases before with
  | nil => cases split
  | cons value before =>
      cases before with
      | nil =>
          cases split
          rfl
      | cons value' before => cases split

end MapperSettings
end EventDispatch
