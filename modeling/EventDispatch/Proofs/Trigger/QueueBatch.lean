import EventDispatch.Proofs.Trigger.Request
import EventDispatch.Service.Dispatch
import Mathlib.Data.List.Basic
/-!
Batches from queues.

Purpose: a batch whose records all name a queue as their source becomes one request for each record,
in the order of the records, with the message id of the record as its id. The order of the records
has no part in what the batch is.

Main exports: `Trigger.ofRecords?_eq_some_iff`, `Trigger.detect_cases`, `Trigger.reorder`,
`Trigger.detect_reorder`, `Trigger.messageId?`, `MapperSettings.QueuedAs`,
`MapperSettings.dispatch_queue`, `MapperSettings.QueuedAs.id`.
-/

namespace EventDispatch

/-! ### Kinds of batches -/

namespace Trigger

theorem ofRecords?_eq_some_iff {records : List Json} {t : Trigger} :
    ofRecords? records = some t ↔ records ≠ [] ∧ ∀ record ∈ records, ofRecord? record = some t := by
  cases records with
  | nil => simp [ofRecords?]
  | cons first rest =>
      unfold ofRecords?
      cases source : ofRecord? first with
      | none => simp [source]
      | some u =>
          simp only [List.all_eq_true, beq_iff_eq, List.forall_mem_cons, source]
          constructor
          · intro found
            split at found
            · rename_i every
              cases found
              exact ⟨List.cons_ne_nil first rest, rfl, every⟩
            · cases found
          · rintro ⟨_, ⟨⟩, every⟩
            rw [if_pos every]

/-- What an event has that makes it an event of its kind. -/
theorem detect_cases (event : Json) :
    (detect event = .apiGatewayV1 ∧
      ∀ name ∈ ["requestContext", "isBase64Encoded", "httpMethod", "path"],
        (event.get? name).isSome = true) ∨
    (detect event = .apiGatewayV2 ∧
      ∀ name ∈ ["requestContext", "isBase64Encoded", "routeKey", "rawPath"],
        (event.get? name).isSome = true) ∨
    (detect event = .eventBridge ∧
      ∀ name ∈ ["source", "detail-type"],
        ((event.get? name).bind Json.string?).isSome = true) ∨
    detect event = (ofRecords? (records event)).getD .custom := by
  dsimp only [detect]
  split
  · rename_i names
    exact Or.inl ⟨rfl, by simpa [and_assoc] using names⟩
  · split
    · rename_i names
      exact Or.inr (Or.inl ⟨rfl, by simpa [and_assoc] using names⟩)
    · split
      · rename_i names
        exact Or.inr (Or.inr (Or.inl ⟨rfl, by simpa using names⟩))
      · exact Or.inr (Or.inr (Or.inr rfl))

/-- An event that is detected as a batch of a queue is told by its records. -/
theorem ofRecords?_of_detect {event : Json} (queue : detect event = .sqs) :
    ofRecords? (records event) = some .sqs := by
  rcases detect_cases event with ⟨other, _⟩ | ⟨other, _⟩ | ⟨other, _⟩ | told
  · cases other.symm.trans queue
  · cases other.symm.trans queue
  · cases other.symm.trans queue
  · rw [queue] at told
    cases source : ofRecords? (records event) with
    | none =>
        rw [source] at told
        cases told
    | some t =>
        rw [source] at told
        exact congrArg some told.symm

/-- The event with other records in place of its own. -/
def reorder (event : Json) (records : List Json) : Json :=
  match event with
  | .object fields => .object (Fields.insert "Records" (.array records) fields)
  | _ => event

/-- Other names are looked up as before. -/
theorem get?_reorder {name : String} (differs : name ≠ "Records") (event : Json)
    (records : List Json) : (reorder event records).get? name = event.get? name := by
  cases event with
  | object fields =>
      exact (Fields.find?_insert "Records" name (.array records) fields).trans (if_neg differs)
  | _ => rfl

theorem records_reorder {event : Json} (nonempty : records event ≠ []) (order : List Json) :
    records (reorder event order) = order := by
  cases event with
  | object fields =>
      have found : (reorder (.object fields) order).get? "Records" = some (.array order) := by
        apply (Fields.find?_insert "Records" "Records" (Json.array order) fields).trans
        exact if_pos rfl
      unfold records
      rw [found]
      rfl
  | _ => exact absurd rfl nonempty

/-- A batch of a queue is one in whatever order its records stand. -/
theorem detect_reorder {event : Json} (queue : detect event = .sqs) {order : List Json}
    (permuted : order.Perm (records event)) :
    detect (reorder event order) = .sqs ∧ records (reorder event order) = order := by
  obtain ⟨nonempty, every⟩ := ofRecords?_eq_some_iff.mp (ofRecords?_of_detect queue)
  have own := records_reorder nonempty order
  have source : ofRecords? order = some .sqs := by
    apply ofRecords?_eq_some_iff.mpr
    refine ⟨?_, fun record member => every record (permuted.mem_iff.mp member)⟩
    rintro rfl
    exact nonempty permuted.nil_eq.symm
  refine ⟨?_, own⟩
  have before : ofRecords? (records event) = some .sqs := ofRecords?_of_detect queue
  have same : ofRecords? (records (reorder event order)) = ofRecords? (records event) := by
    rw [own, source, before]
  rw [← queue]
  unfold detect
  simp only [get?_reorder (by decide : "requestContext" ≠ "Records"),
    get?_reorder (by decide : "isBase64Encoded" ≠ "Records"),
    get?_reorder (by decide : "httpMethod" ≠ "Records"),
    get?_reorder (by decide : "path" ≠ "Records"),
    get?_reorder (by decide : "routeKey" ≠ "Records"),
    get?_reorder (by decide : "rawPath" ≠ "Records"),
    get?_reorder (by decide : "source" ≠ "Records"),
    get?_reorder (by decide : "detail-type" ≠ "Records"), same]

/-- The message id that a record names. -/
def messageId? (record : Json) : Option String := (record.get? "messageId").bind Json.string?

/-- A record that names its source is an object. -/
theorem exists_fields_of_source {record : Json} {t : Trigger}
    (source : ofRecord? record = some t) : ∃ fields, record = .object fields := by
  cases record with
  | object fields => exact ⟨fields, rfl⟩
  | _ => cases source

end Trigger

theorem QueueRecord.holds_messageId :
    (shape : Record Json QueueRecord).Holds "messageId" Decode.string messageId :=
  Record.holds_of_write rfl rfl (fun _ _ => rfl) (by simp [shape])

/-! ### Requests of a batch -/

namespace MapperSettings

variable {settings : MapperSettings} {context : Context} {record : Json} {q : Request}

/-- A record of a queue is made into a request. No fresh identifiers are needed for it. -/
def QueuedAs (settings : MapperSettings) (context : Context) (record : Json) (q : Request) : Prop :=
  (ItemKind.queue settings.unwrapEnvelopes).request context "" record = .ok q

namespace QueuedAs

theorem request (queued : settings.QueuedAs context record q) (fresh : String) :
    (ItemKind.queue settings.unwrapEnvelopes).request context fresh record = .ok q := queued

theorem unique {other : Request} (queued : settings.QueuedAs context record q)
    (again : settings.QueuedAs context record other) : q = other :=
  Except.ok.inj (queued.symm.trans again)

/-- The id of the request is the message id of the record. -/
theorem id (queued : settings.QueuedAs context record q) {t : Trigger}
    (source : Trigger.ofRecord? record = some t) : Trigger.messageId? record = some q.id := by
  obtain ⟨fields, rfl⟩ := Trigger.exists_fields_of_source source
  obtain ⟨r, decoded, p, -, rfl⟩ := ItemKind.queue_eq_ok_iff.mp queued
  obtain ⟨v, found, read⟩ :=
    QueueRecord.holds_messageId.of_required List.mem_cons_self rfl rfl decoded
  unfold Trigger.messageId?
  rw [Json.get?_object, found, Decode.string_eq_ok_iff.mp read]
  rfl

end QueuedAs

/-- The records of a queue are made into requests in their order. -/
theorem requests_of_queuedAs {f : Json → Request} {records : List Json}
    (queued : ∀ record ∈ records, settings.QueuedAs context record (f record))
    (fresh : Nat → String) (position : Nat) :
    (ItemKind.queue settings.unwrapEnvelopes).requests context fresh position records
      = .ok (records.map f) := by
  induction records generalizing position with
  | nil => rfl
  | cons record rest inductionHypothesis =>
      obtain ⟨first, others⟩ := List.forall_mem_cons.mp queued
      unfold ItemKind.requests
      rw [first.request, inductionHypothesis others]
      rfl

/-- Records that can be made into requests are made into them by a function. -/
theorem exists_requests {records : List Json}
    (builds : ∀ record ∈ records, ∃ q, settings.QueuedAs context record q) :
    ∃ f : Json → Request, ∀ record ∈ records, settings.QueuedAs context record (f record) := by
  have every : ∀ record, ∃ q, record ∈ records → settings.QueuedAs context record q := by
    intro record
    by_cases member : record ∈ records
    · obtain ⟨q, queued⟩ := builds record member
      exact ⟨q, fun _ => queued⟩
    · exact ⟨default, fun there => absurd there member⟩
  exact ⟨fun record => (every record).choose, fun record => (every record).choose_spec⟩

/-- A batch of a queue is dispatched as the requests of its records, to be acknowledged by a report
of those that failed. -/
theorem dispatch_queue {event : Json} (queue : Trigger.detect event = .sqs) {f : Json → Request}
    (queued : ∀ record ∈ Trigger.records event, settings.QueuedAs context record (f record))
    (fresh : Nat → String) :
    settings.dispatch fresh context event = .ok ⟨.failureReport settings.batchKey,
      ((Trigger.records event).map f).map fun r => { request := r }⟩ := by
  have requests := requests_of_queuedAs queued fresh 0
  simp only [dispatch, map, mapBatch, queue, requests, Except.map]

/-- The ids of the requests are the message ids of the records. -/
theorem ids_of_queuedAs {event : Json} (queue : Trigger.detect event = .sqs) {f : Json → Request}
    (queued : ∀ record ∈ Trigger.records event, settings.QueuedAs context record (f record)) :
    ∀ record ∈ Trigger.records event, Trigger.messageId? record = some (f record).id := by
  intro record member
  have sources := (Trigger.ofRecords?_eq_some_iff.mp (Trigger.ofRecords?_of_detect queue)).2
  exact (queued record member).id (sources record member)

theorem filterMap_messageId? {records : List Json} {f : Json → Request}
    (named : ∀ record ∈ records, Trigger.messageId? record = some (f record).id) :
    records.filterMap Trigger.messageId? = (records.map f).map Request.id := by
  rw [List.map_map, ← List.filterMap_eq_map]
  exact List.filterMap_congr named

/-- Different message ids make different ids of requests. -/
theorem nodup_ids {records : List Json} {f : Json → Request}
    (named : ∀ record ∈ records, Trigger.messageId? record = some (f record).id)
    (distinct : (records.map Trigger.messageId?).Nodup) :
    ((records.map f).map Request.id).Nodup := by
  rw [List.map_congr_left named] at distinct
  rw [List.map_map]
  apply List.pairwise_map.mpr
  exact (List.pairwise_map.mp distinct).imp fun differs same => differs (congrArg some same)

end MapperSettings
end EventDispatch
