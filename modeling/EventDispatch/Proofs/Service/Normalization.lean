import EventDispatch.Proofs.Trigger.Acknowledgement
/-!
Events as requests, all or nothing.

Purpose: an event becomes one request for each of its items, in their order and with the context of
the event, or it is refused: for its source, or with the error of the first item of which no request
can be made. A refused event is answered by that error, and nothing is sent for it, so that the
exchange stays as it is.

Main exports: `ItemKind.FirstUnmade`, `ItemKind.requests_eq_error_iff`, `ItemKind.content`,
`ItemKind.context_and_content`, `MapperSettings.map_eq_error_iff`, `Exchange.process_refused`,
`Exchange.all_or_nothing`.
-/

namespace EventDispatch

/-! ### The first item that is not made into a request -/

namespace ItemKind

variable {kind : ItemKind} {context : Context} {supply : Nat → String} {position : Nat}
  {items : List Json} {e : MappingError}

/-- An error is that of the first item, from the left, of which no request can be made. -/
def FirstUnmade (kind : ItemKind) (context : Context) (supply : Nat → String) (position : Nat)
    (items : List Json) (e : MappingError) : Prop :=
  ∃ before item after, items = before ++ item :: after ∧
    (∀ i other, before[i]? = some other →
      ∃ q, kind.request context (supply (position + i)) other = .ok q) ∧
    kind.request context (supply (position + before.length)) item = .error e

/-- The first item is not made into a request, or it is and a later one is the first that is not. -/
theorem firstUnmade_cons_iff {first : Json} {rest : List Json} :
    kind.FirstUnmade context supply position (first :: rest) e ↔
      kind.request context (supply position) first = .error e ∨
        (∃ q, kind.request context (supply position) first = .ok q) ∧
          kind.FirstUnmade context supply (position + 1) rest e := by
  have later : ∀ i, position + (i + 1) = position + 1 + i := by omega
  constructor
  · rintro ⟨before, item, after, split, made, fails⟩
    cases before with
    | nil =>
        cases split
        exact Or.inl fails
    | cons b before =>
        cases split
        refine Or.inr ⟨made 0 first rfl, before, item, after, rfl, ?_, ?_⟩
        · intro i other place
          rw [← later]
          exact made (i + 1) other place
        · rwa [← later]
  · rintro (fails | ⟨own, before, item, after, rfl, made, fails⟩)
    · exact ⟨[], first, rest, rfl, by simp, fails⟩
    · refine ⟨first :: before, item, after, rfl, ?_, by rwa [List.length_cons, later]⟩
      intro i other place
      cases i with
      | zero =>
          cases place
          exact own
      | succ i =>
          rw [later]
          exact made i other place

/-- Items are refused with the error of the first one of which no request can be made. -/
theorem requests_eq_error_iff :
    kind.requests context supply position items = .error e ↔
      kind.FirstUnmade context supply position items e := by
  induction items generalizing position with
  | nil => simp [ItemKind.requests, FirstUnmade]
  | cons first rest inductionHypothesis =>
      rw [firstUnmade_cons_iff, ← inductionHypothesis]
      simp only [ItemKind.requests, bind_eq_error_iff, pure, Except.pure, reduceCtorEq, and_false,
        exists_false, or_false, exists_and_right]

/-! ### What a request takes from its item -/

/-- What a request carries of its item: the whole item, or the notification in a delivery. -/
def content (kind : ItemKind) (item : Json) : Decoded Json :=
  match kind with
  | .notification => notificationRecord.decode item
  | _ => .ok item

/-- A request has the context of its event and the content of its item. -/
theorem context_and_content {fresh : String} {item : Json} {q : Request}
    (made : kind.request context fresh item = .ok q) :
    q.context = context ∧ kind.content item = .ok q.data := by
  cases kind with
  | notification =>
      obtain ⟨content, held, n, -, p, -, rfl⟩ := notification_eq_ok_iff.mp made
      exact ⟨rfl, held⟩
  | custom =>
      cases made
      exact ⟨rfl, rfl⟩
  | queue unwrap =>
      obtain ⟨r, -, p, -, rfl⟩ := queue_eq_ok_iff.mp made
      exact ⟨rfl, rfl⟩
  | gateway | bus | storage =>
      simp only [request, bind_eq_ok_iff, pure, Except.pure, Except.ok.injEq] at made
      obtain ⟨_, _, rfl⟩ := made
      exact ⟨rfl, rfl⟩

end ItemKind

/-! ### Events that are refused -/

namespace MapperSettings

variable {settings : MapperSettings} {fresh : Nat → String} {context : Context} {event : Json}

/-- An event is refused for its source, or with the error of the first of its items of which no
request can be made. -/
theorem map_eq_error_iff {e : MappingError} :
    settings.map fresh context event = .error e ↔
      settings.refusal? (Trigger.detect event) = some e ∨
        settings.refusal? (Trigger.detect event) = none ∧
          ((Trigger.detect event).itemKind settings).FirstUnmade context fresh 0
            (Trigger.items event) e := by
  rw [map_eq]
  cases settings.refusal? (Trigger.detect event) with
  | some refusal => simp
  | none =>
      simp only [← ItemKind.requests_eq_error_iff]
      cases ((Trigger.detect event).itemKind settings).requests context fresh 0
        (Trigger.items event) <;> simp [Except.map]

end MapperSettings

namespace Exchange

/-- A refused event is answered by its error, and the exchange stays as it is. -/
theorem process_refused (x : Exchange) {settings : MapperSettings} {fresh : Nat → String}
    {context : Context} {event : Json} {e : MappingError}
    (refused : settings.map fresh context event = .error e) :
    x.process settings fresh context event = (x, some (.error (.mapping e))) := by
  simp only [process, MapperSettings.dispatch, refused]

/-- An event is either refused or becomes the requests of all its items. If it is refused, nothing
is sent, received or handled for it. The error is that of its source or of the first item of which
no request can be made; for a batch that is split into its records it is that of the first such
record. Otherwise the requests that are to be sent are those of the items, one by one and in their
order, with the context of the event and the content of the items. -/
theorem all_or_nothing (x : Exchange) (settings : MapperSettings) (fresh : Nat → String)
    (context : Context) (event : Json) :
    (∀ e, settings.map fresh context event = .error e →
      x.process settings fresh context event = (x, some (.error (.mapping e))) ∧
      (settings.refusal? (Trigger.detect event) = some e ∨
        ((Trigger.detect event).itemKind settings).FirstUnmade context fresh 0
          (Trigger.items event) e) ∧
      (Trigger.detect event ∈ [.s3, .sns, .sqs] →
        ((Trigger.detect event).itemKind settings).FirstUnmade context fresh 0
          (Trigger.records event) e)) ∧
    (∀ mapped, settings.map fresh context event = .ok mapped →
      settings.dispatch fresh context event
        = .ok ⟨mapped.responder, mapped.requests.map fun q => { request := q }⟩ ∧
      mapped.requests.length = (Trigger.items event).length ∧
      ∀ i item, (Trigger.items event)[i]? = some item → ∃ q, mapped.requests[i]? = some q ∧
        ((Trigger.detect event).itemKind settings).request context (fresh i) item = .ok q ∧
        q.context = context ∧
        ((Trigger.detect event).itemKind settings).content item = .ok q.data) := by
  constructor
  · intro e refused
    have reason := MapperSettings.map_eq_error_iff.mp refused
    refine ⟨x.process_refused refused, reason.imp_right And.right, ?_⟩
    intro batch
    simp only [List.mem_cons, List.not_mem_nil, or_false] at batch
    unfold Trigger.items at reason
    rcases batch with kind | kind | kind <;>
    · rw [kind] at reason ⊢
      exact (reason.resolve_left nofun).2
  · intro mapped accepted
    obtain ⟨length, each⟩ :=
      ItemKind.requests_made (MapperSettings.requests_of_map accepted).1
    refine ⟨by simp only [MapperSettings.dispatch, accepted], length, ?_⟩
    intro i item place
    obtain ⟨q, own, made⟩ := each i item place
    rw [Nat.zero_add] at made
    exact ⟨q, own, made, ItemKind.context_and_content made⟩

/-- A record of a queue that says which one it is. -/
def plainRecord (id : String) : Json :=
  .object [("eventSource", .string "aws:sqs"), ("messageId", .string id)]

/-- A record of a queue that does not. -/
def namelessRecord : Json := .object [("eventSource", .string "aws:sqs")]

/-- A batch of three records, of which the second is nameless. -/
def gappedBatch : Json :=
  .object [("Records", .array [plainRecord "a", namelessRecord, plainRecord "c"])]

/-- An exchange with a server that listens. -/
def listening : Exchange := (Exchange.addServer {} .empty).1.listen 0

/-- The batch is refused for its second record, and its first one is not sent either. -/
theorem refused_for_second_record :
    listening.process {} (fun _ => "") {} gappedBatch = (listening,
      some (.error (.mapping (.shape "sqs" (Fault.missing "messageId").jsonMessage)))) := by
  have kind : Trigger.detect gappedBatch = .sqs := by rfl
  have first : (ItemKind.queue true).request {} "" (plainRecord "a")
      = .ok ⟨"a", .object [], plainRecord "a", {}⟩ := by cbv
  have second : (ItemKind.queue true).request {} "" namelessRecord
      = .error (.shape "sqs" (Fault.missing "messageId").jsonMessage) := by rfl
  have refused : MapperSettings.map {} (fun _ => "") {} gappedBatch
      = .error (.shape "sqs" (Fault.missing "messageId").jsonMessage) := by
    rw [MapperSettings.map_eq_error_iff, kind]
    refine Or.inr ⟨rfl, [plainRecord "a"], namelessRecord, [plainRecord "c"], ?_, ?_, second⟩
    · rw [Trigger.items, kind]
      rfl
    · intro i other place
      cases i with
      | zero =>
          cases place
          exact ⟨_, first⟩
      | succ i => cases place
  exact ((all_or_nothing listening {} (fun _ => "") {} gappedBatch).1 _ refused).1

end Exchange
end EventDispatch
