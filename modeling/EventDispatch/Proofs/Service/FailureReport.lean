import EventDispatch.Proofs.Service.SendAll
import EventDispatch.Proofs.Text.Bytes
import EventDispatch.Proofs.Trigger.QueueBatch
/-!
The report of failed records.

Purpose: a batch from a queue is acknowledged by the message ids of the records that failed, in
ascending order. Over a server that listens these are the records whose requests fail on their own:
neither the order of the records, nor the schedule, nor the failure of another record has a part in
it.

Main exports: `Registry.Fails`, `Registry.failing`, `BatchFailures.ofIdentifiers_perm`,
`Caller.own_outcomes`, `Dispatch.resultAfter`, `MapperSettings.failure_report`.
-/

namespace EventDispatch

open scoped List

/-! ### Requests that fail -/

namespace Registry

/-- A request fails on its own: no handler takes it, only an event handler does, or the handler that
takes it fails or crashes. -/
inductive Fails (g : Registry) (q : Request) : Prop where
  | unqualified (nobody : g.resolve q.pattern = .none)
  | event {r : Registration} (taken : g.resolve q.pattern = .event r)
  | failed {r : Registration} {error : HandlerError} (taken : g.resolve q.pattern = .message r)
      (run : r.handler q = .failed error)
  | answered {r : Registration} {error : ResponseError} (taken : g.resolve q.pattern = .message r)
      (run : r.handler q = .answered error)
  | crashed {r : Registration} {message : String} (taken : g.resolve q.pattern = .message r)
      (run : r.handler q = .crashed message)

/-- The ids of the requests that come to an error on their own. -/
def failing (g : Registry) (requests : List Request) : List String :=
  (requests.filter fun q => (g.outcome? q).any fun outcome =>
    !(⟨q, outcome⟩ : Settled).isSuccess).map Request.id

variable {g : Registry} {q : Request}

theorem fails_iff : g.Fails q ↔ ((g.outcome? q).any fun outcome =>
    !(⟨q, outcome⟩ : Settled).isSuccess) = true := by
  constructor
  · intro fails
    cases fails with
    | unqualified nobody => simp [outcome?, nobody, Settled.isSuccess]
    | event taken => simp [outcome?, taken, Settled.isSuccess]
    | failed taken run => simp [outcome?, taken, run, Settled.isSuccess]
    | answered taken run => simp [outcome?, taken, run, Settled.isSuccess]
    | crashed taken run => simp [outcome?, taken, run, Settled.isSuccess]
  · intro unsuccessful
    cases taken : g.resolve q.pattern with
    | none => exact .unqualified taken
    | event r => exact .event taken
    | crashed => simp [outcome?, taken] at unsuccessful
    | message r =>
        cases run : r.handler q with
        | failed error => exact .failed taken run
        | answered error => exact .answered taken run
        | crashed message => exact .crashed taken run
        | _ => simp [outcome?, taken, run, Settled.isSuccess] at unsuccessful

theorem mem_failing_iff {requests : List Request} {id : String} :
    id ∈ g.failing requests ↔ ∃ q ∈ requests, g.Fails q ∧ q.id = id := by
  simp only [failing, List.mem_map, List.mem_filter, fails_iff, and_assoc]

theorem failing_perm {requests others : List Request} (permuted : requests ~ others) :
    g.failing requests ~ g.failing others :=
  (permuted.filter _).map Request.id

theorem failing_sublist (g : Registry) (requests : List Request) :
    g.failing requests <+ requests.map Request.id :=
  List.filter_sublist.map Request.id

end Registry

/-! ### Reports -/

namespace BatchFailures

theorem identifiers_ofIdentifiers (key : BatchKey) (ids : List String) :
    (ofIdentifiers key ids).identifiers = ids.mergeSort fun a b => decide (a ≤ b) := by
  unfold identifiers ofIdentifiers
  rw [List.map_map]
  exact List.map_id _

/-- The identifiers of a report are those it was made for. -/
theorem identifiers_perm (key : BatchKey) (ids : List String) :
    (ofIdentifiers key ids).identifiers ~ ids := by
  rw [identifiers_ofIdentifiers]
  exact List.mergeSort_perm ids _

theorem identifiers_ordered (key : BatchKey) (ids : List String) :
    (ofIdentifiers key ids).identifiers.Pairwise (· ≤ ·) := by
  rw [identifiers_ofIdentifiers]
  have ordered : (ids.mergeSort fun a b => decide (a ≤ b)).Pairwise
      fun a b => decide (a ≤ b) = true := by
    apply List.pairwise_mergeSort
    · intro a b c below above
      simp only [decide_eq_true_eq] at below above ⊢
      exact String.le_trans below above
    · intro a b
      simpa using String.le_total a b
  exact ordered.imp of_decide_eq_true

/-- Different identifiers are reported in strictly ascending order of their bytes. -/
theorem identifiers_ascending (key : BatchKey) {ids : List String} (distinct : ids.Nodup) :
    (ofIdentifiers key ids).identifiers.Pairwise fun a b => Text.bytes a < Text.bytes b := by
  have apart := (identifiers_perm key ids).nodup_iff.mpr distinct
  apply (identifiers_ordered key ids).imp₂ _ apart
  intro a b notAbove differs
  apply Text.bytes_lt
  exact String.not_le.mp fun notBelow => differs (String.le_antisymm notAbove notBelow)

/-- The order in which identifiers are given has no part in the report. -/
theorem ofIdentifiers_perm (key : BatchKey) {ids others : List String} (permuted : ids ~ others) :
    ofIdentifiers key ids = ofIdentifiers key others := by
  have same : (ofIdentifiers key ids).identifiers = (ofIdentifiers key others).identifiers := by
    apply List.Perm.eq_of_pairwise _ (identifiers_ordered key ids) (identifiers_ordered key others)
    · exact (identifiers_perm key ids).trans (permuted.trans (identifiers_perm key others).symm)
    · intro a b _ _
      exact String.le_antisymm
  rw [identifiers_ofIdentifiers, identifiers_ofIdentifiers] at same
  unfold ofIdentifiers
  rw [same]

end BatchFailures

/-- Outcomes that are those of the requests on their own are acknowledged by the ids of the requests
that fail on their own. -/
theorem Responder.acknowledge_outcomes (key : BatchKey) {g : Registry} {requests : List Request}
    {results : List Settled}
    (own : List.Forall₂ (fun q s => s.request = q ∧ g.outcome? q = some s.outcome) requests
      results) :
    (failureReport key).acknowledge results
      = .ok (.batchFailures (.ofIdentifiers key (g.failing requests))) := by
  have ids : ((results.filter fun s => !s.isSuccess).map fun s => s.request.id)
      = g.failing requests := by
    unfold Registry.failing
    induction own with
    | nil => rfl
    | @cons q s requests results pair _ inductionHypothesis =>
        obtain ⟨rfl, outcome⟩ := pair
        rw [List.filter_cons, List.filter_cons, outcome, Option.any_some]
        cases s.isSuccess with
        | true => exact inductionHypothesis
        | false => exact congrArg (s.request.id :: ·) inductionHypothesis
  unfold acknowledge
  rw [ids]

/-! ### Outcomes of requests with different ids -/

namespace Caller

variable {e : Caller} {n c : Nat} {g : Registry} {wanted : List Request}

theorem Turn.Spares.of_subset {ids others : List String} {t : Turn} (spares : t.Spares ids)
    (subset : others ⊆ ids) : t.Spares others := by
  cases t with
  | look i => trivial
  | act a =>
      cases a with
      | use action =>
          cases action with
          | send r => exact fun member => spares (subset member)
          | respond r => exact fun member => spares (subset member)
          | _ => trivial
      | _ => trivial

/-- No request is refused for the sake of another one when all ids are different. -/
theorem Right.outcome_eq (distinct : (wanted.map Request.id).Nodup) {i : Nat} {q : Request}
    {outcome : Outcome} (place : wanted[i]? = some q) (right : Right wanted g i q outcome) :
    g.outcome? q = some outcome := by
  rcases right with own | ⟨_, j, other, elsewhere, there, same⟩
  · exact own
  · have inRange : i < (wanted.map Request.id).length := by
      simpa using (List.getElem?_eq_some_iff.mp place).1
    have ids : (wanted.map Request.id)[i]? = (wanted.map Request.id)[j]? := by
      rw [List.getElem?_map, List.getElem?_map, place, there, Option.map_some, Option.map_some,
        same]
    exact absurd ((List.getElem?_inj inRange distinct).mp ids).symm elsewhere

/-- With different ids, right results are the outcomes of the requests on their own, in order. -/
theorem own_outcomes (distinct : (wanted.map Request.id).Nodup) {results : List Settled}
    (length : results.length = wanted.length)
    (entries : ∀ i q, wanted[i]? = some q →
      ∃ outcome, results[i]? = some ⟨q, outcome⟩ ∧ Right wanted g i q outcome) :
    List.Forall₂ (fun q s => s.request = q ∧ g.outcome? q = some s.outcome) wanted results := by
  refine List.forall₂_iff_get.mpr ⟨length.symm, ?_⟩
  intro i here there
  have place : wanted[i]? = some wanted[i] := List.getElem?_eq_getElem here
  obtain ⟨outcome, found, right⟩ := entries i wanted[i] place
  rw [List.getElem?_eq_getElem there, Option.some.injEq] at found
  rw [List.get_eq_getElem, List.get_eq_getElem, found]
  exact ⟨rfl, right.outcome_eq distinct place⟩

end Caller

/-! ### Reports of batches -/

namespace Dispatch

/-- The event under way in a scene. -/
def caller (d : Dispatch) (s : Scene) : Caller := ⟨s, d.pursuits⟩

/-- What the event has come to after some turns of a schedule, if it has come to its end. -/
def resultAfter (d : Dispatch) (s : Scene) (schedule : Nat → Caller.Turn) (k : Nat) :
    Option (Except DispatchError Acknowledgement) :=
  { d with pursuits := ((d.caller s).after schedule k).pursuits }.result?

/-- Whatever the schedule, as long as the consumer stays the same and nobody else uses some ids, the
event comes to nothing but an acknowledgement. Under a fair schedule it is there from some moment
on. -/
def ComesTo (d : Dispatch) (s : Scene) (n : Nat) (ids : List String) (ack : Acknowledgement) :
    Prop :=
  ∀ schedule : Nat → Caller.Turn, (∀ k, (schedule k).Spares ids) →
    (∀ k, ((d.caller s).after schedule k).scene.exchange.bus.consumer
      = s.exchange.bus.consumer) →
    (∀ k result, d.resultAfter s schedule k = some result → result = .ok ack) ∧
    ((d.caller s).Fair n schedule →
      ∃ k, ∀ l, k ≤ l → d.resultAfter s schedule l = some (.ok ack))

/-- Sparing more ids is enough. -/
theorem ComesTo.of_subset {d : Dispatch} {s : Scene} {n : Nat} {ids others : List String}
    {ack : Acknowledgement} (comes : d.ComesTo s n ids ack) (subset : ids ⊆ others) :
    d.ComesTo s n others ack := by
  intro schedule spares stays
  exact comes schedule (fun k => (spares k).of_subset subset) stays

theorem result?_eq_some_iff {d : Dispatch} {result : Except DispatchError Acknowledgement} :
    d.result? = some result ↔ ∃ settled, Pursuit.allSettled? d.pursuits = some settled ∧
      (d.responder.acknowledge settled).mapError .correlation = result :=
  Option.map_eq_some_iff

/-- The requests of a report, over a server that listens. -/
theorem comesTo_report {s : Scene} {n : Nat} {g : Registry} {requests : List Request}
    (sound : s.Sound) (listening : s.exchange.Listening n g) (settles : g.Settles requests)
    (distinct : (requests.map Request.id).Nodup)
    (free : ∀ q ∈ requests, ¬ s.InFlight q.id) (key : BatchKey) :
    ComesTo ⟨.failureReport key, requests.map fun r => { request := r }⟩ s n
      (requests.map Request.id) (.batchFailures (.ofIdentifiers key (g.failing requests))) := by
  intro schedule spares stays
  obtain ⟨c, runs, consumer⟩ := listening
  have kept := (Caller.kept_start sound runs consumer free).after settles spares
    fun k => (stays k).trans consumer
  have right : ∀ k settled,
      Pursuit.allSettled? ((Caller.start s requests).after schedule k).pursuits = some settled →
      (Responder.failureReport key).acknowledge settled
        = .ok (.batchFailures (.ofIdentifiers key (g.failing requests))) := by
    intro k settled found
    obtain ⟨length, entries⟩ := (kept k).results found
    exact Responder.acknowledge_outcomes key (Caller.own_outcomes distinct length entries)
  constructor
  · intro k result found
    obtain ⟨settled, there, rfl⟩ := result?_eq_some_iff.mp found
    rw [right k settled there]
    rfl
  · intro fair
    have fair : (Caller.start s requests).Fair n schedule := fair
    obtain ⟨k, settled⟩ := fair.all_settled ⟨settles, kept⟩
    obtain ⟨results, found⟩ := Pursuit.exists_allSettled? (settled k (Nat.le_refl k)).2
    refine ⟨k, ?_⟩
    intro l later
    apply result?_eq_some_iff.mpr
    have there : Pursuit.allSettled? ((Caller.start s requests).after schedule l).pursuits
        = some results := by
      rw [(settled l later).1]
      exact found
    refine ⟨results, there, ?_⟩
    rw [right l results there]
    rfl

end Dispatch

/-- Processing a batch of a queue gives the report. -/
theorem Exchange.process_report {acts : List Scene.Act} {n : Nat} {g : Registry}
    {requests : List Request} {settings : MapperSettings} {context : Context} {event : Json}
    {fresh : Nat → String} {key : BatchKey}
    (dispatched : settings.dispatch fresh context event = .ok
      ⟨.failureReport key, requests.map fun r => { request := r }⟩)
    (listening : (Scene.of acts).exchange.Listening n g)
    (settling : ∀ r ∈ g.toList, r.handler.Settles)
    (matching : ∀ q ∈ requests, ¬ g.CrashesOnMatch q)
    (distinct : (requests.map Request.id).Nodup)
    (free : ∀ q ∈ requests, ¬ (Scene.of acts).InFlight q.id) :
    ((Scene.of acts).exchange.process settings fresh context event).2
      = some (.ok (.batchFailures (.ofIdentifiers key (g.failing requests)))) := by
  obtain ⟨results, processed, length, entries⟩ := process_right dispatched (Scene.sound_of acts)
    listening (Registry.settles_of_handlers settling matching) free
  rw [processed, Responder.acknowledge_outcomes key (Caller.own_outcomes distinct length entries)]
  rfl

namespace MapperSettings

/-- A report names the message ids of the records whose requests fail. -/
theorem mem_report {settings : MapperSettings} {context : Context} {g : Registry}
    {records : List Json} {f : Json → Request}
    (named : ∀ record ∈ records, Trigger.messageId? record = some (f record).id)
    (queued : ∀ record ∈ records, settings.QueuedAs context record (f record)) (id : String) :
    id ∈ (BatchFailures.ofIdentifiers settings.batchKey (g.failing (records.map f))).identifiers ↔
      ∃ record ∈ records, Trigger.messageId? record = some id ∧
        ∃ q, settings.QueuedAs context record q ∧ g.Fails q := by
  rw [(BatchFailures.identifiers_perm _ _).mem_iff, Registry.mem_failing_iff]
  constructor
  · rintro ⟨_, made, fails, rfl⟩
    obtain ⟨record, member, rfl⟩ := List.mem_map.mp made
    exact ⟨record, member, named record member, f record, queued record member, fails⟩
  · rintro ⟨record, member, own, q, queuedAs, fails⟩
    obtain rfl := (queued record member).unique queuedAs
    refine ⟨f record, List.mem_map_of_mem member, fails, ?_⟩
    rw [named record member] at own
    exact Option.some.inj own

/-- The report of a batch from a queue. All its records can be made into requests, their message ids
are different, the handlers end every run, and no match crashes while the handlers of the records
are looked for. There is one report that names, in strictly ascending order of their bytes, the
message ids of the records that fail on their own. It is what the batch comes to, in whatever order
its records stand, whenever a server listens with the handlers and the message ids are not in use:
when the event is processed, and under every schedule by which the server stays the consumer and
nobody else uses the ids. -/
theorem failure_report (settings : MapperSettings) (context : Context) (event : Json) (g : Registry)
    (queue : Trigger.detect event = .sqs)
    (builds : ∀ record ∈ Trigger.records event, ∃ q, settings.QueuedAs context record q)
    (distinct : ((Trigger.records event).map Trigger.messageId?).Nodup)
    (settling : ∀ r ∈ g.toList, r.handler.Settles)
    (matching : ∀ record ∈ Trigger.records event, ∀ q, settings.QueuedAs context record q →
      ¬ g.CrashesOnMatch q) :
    ∃ report : BatchFailures, report.key = settings.batchKey ∧
      (report.identifiers.Pairwise fun a b => Text.bytes a < Text.bytes b) ∧
      (∀ id, id ∈ report.identifiers ↔
        ∃ record ∈ Trigger.records event, Trigger.messageId? record = some id ∧
          ∃ q, settings.QueuedAs context record q ∧ g.Fails q) ∧
      (∀ order, order ~ Trigger.records event →
        Trigger.detect (Trigger.reorder event order) = .sqs ∧
          Trigger.records (Trigger.reorder event order) = order) ∧
      ∀ (again : Json) (acts : List Scene.Act) (n : Nat) (fresh : Nat → String),
        Trigger.detect again = .sqs → Trigger.records again ~ Trigger.records event →
        (Scene.of acts).exchange.Listening n g →
        (∀ id ∈ (Trigger.records event).filterMap Trigger.messageId?,
          ¬ (Scene.of acts).InFlight id) →
        ((Scene.of acts).exchange.process settings fresh context again).2
            = some (.ok (.batchFailures report)) ∧
          ∃ d, settings.dispatch fresh context again = .ok d ∧
            d.ComesTo (Scene.of acts) n ((Trigger.records event).filterMap Trigger.messageId?)
              (.batchFailures report) := by
  obtain ⟨f, queued⟩ := exists_requests builds
  have named := ids_of_queuedAs queue queued
  have ids := filterMap_messageId? named
  have apart := nodup_ids named distinct
  have orderly : ∀ q ∈ (Trigger.records event).map f, ¬ g.CrashesOnMatch q :=
    List.forall_mem_map.mpr fun record member => matching record member _ (queued record member)
  refine ⟨.ofIdentifiers settings.batchKey (g.failing ((Trigger.records event).map f)), rfl, ?_,
    ?_, fun order => Trigger.detect_reorder queue, ?_⟩
  · apply BatchFailures.identifiers_ascending
    exact (g.failing_sublist _).nodup apart
  · exact mem_report named queued
  · intro again acts n fresh queueAgain permuted listening free
    have queuedAgain : ∀ record ∈ Trigger.records again,
        settings.QueuedAs context record (f record) :=
      fun record member => queued record (permuted.mem_iff.mp member)
    have requests := permuted.map f
    have dispatched := dispatch_queue queueAgain queuedAgain fresh
    have apartAgain := (requests.map Request.id).nodup_iff.mpr apart
    have freeAgain : ∀ q ∈ (Trigger.records again).map f, ¬ (Scene.of acts).InFlight q.id := by
      intro q member
      apply free
      rw [ids]
      exact List.mem_map_of_mem (requests.mem_iff.mp member)
    have orderlyAgain : ∀ q ∈ (Trigger.records again).map f, ¬ g.CrashesOnMatch q :=
      fun q member => orderly q (requests.mem_iff.mp member)
    rw [← BatchFailures.ofIdentifiers_perm _ (Registry.failing_perm requests)]
    refine ⟨?_, _, dispatched, ?_⟩
    · exact Exchange.process_report dispatched listening settling orderlyAgain apartAgain freeAgain
    · rw [ids]
      apply Dispatch.ComesTo.of_subset _ (requests.map Request.id).subset
      exact Dispatch.comesTo_report (Scene.sound_of acts) listening
        (Registry.settles_of_handlers settling orderlyAgain) apartAgain freeAgain _

/-- A record of a queue without attributes. -/
def bareRecord (id : String) : Json :=
  .object [("eventSource", .string "aws:sqs"), ("messageId", .string id)]

/-- A batch of two such records. -/
def bareBatch : Json := .object [("Records", .array [bareRecord "b", bareRecord "a"])]

/-- A handler that refuses one of them. -/
def refusesOne : Handler := .ofFunction fun q =>
  if q.id = "b" then .error (.refusal "poison") else .ok (.value q.data)

/-- A record with an empty body carries no notification. -/
theorem pattern_of_empty_body (id : String) (attributes : Fields AttributeBody) :
    QueueRecord.pattern true ⟨id, "", attributes⟩
      = (⟨id, "", attributes⟩ : QueueRecord).ownPattern := by
  have nothing : Notification.ofText? "" = none := by cbv
  simp only [QueueRecord.pattern, QueueRecord.carriedPattern?, nothing]
  rfl

theorem queuedAs_bareRecord (id : String) :
    QueuedAs {} {} (bareRecord id) ⟨id, .object [], bareRecord id, {}⟩ := by
  have decoded : QueueRecord.shape.decode (bareRecord id) = .ok ⟨id, "", []⟩ := rfl
  exact ItemKind.queue_eq_ok_iff.mpr ⟨_, decoded, _, pattern_of_empty_body id [], rfl⟩

/-- One of two records fails, and is reported whichever comes first. -/
theorem one_failure_reported : ∃ (g : Registry) (report : BatchFailures),
    Registry.empty.register (.object []) refusesOne .message {} = .ok g ∧
    (∀ id, id ∈ report.identifiers ↔ id = "b") ∧
    ∀ order, order ~ [bareRecord "b", bareRecord "a"] →
      ((Scene.of [.serve g, .listen 0]).exchange.process {} (fun _ => "") {}
        (Trigger.reorder bareBatch order)).2 = some (.ok (.batchFailures report)) := by
  obtain ⟨g, registered⟩ := Registry.exists_register (Registry.contains_empty (.object []))
    refusesOne .message {}
  have settling : ∀ r ∈ g.toList, r.handler.Settles :=
    Registry.settles_of_register registered (Handler.settles_ofFunction _)
  have taken : g.resolve (.object []) = .message (.make (.object []) refusesOne .message {}) :=
    Registry.resolve_of_register registered
  have records : Trigger.records bareBatch = [bareRecord "b", bareRecord "a"] := rfl
  have queue : Trigger.detect bareBatch = .sqs := by rfl
  have builds : ∀ record ∈ Trigger.records bareBatch, ∃ q, QueuedAs {} {} record q := by
    rw [records]
    simp only [List.forall_mem_cons]
    exact ⟨⟨_, queuedAs_bareRecord "b"⟩, ⟨_, queuedAs_bareRecord "a"⟩, by simp⟩
  have matching : ∀ record ∈ Trigger.records bareBatch, ∀ q, QueuedAs {} {} record q →
      ¬ g.CrashesOnMatch q := by
    intro record member q queued
    have pattern : q.pattern = .object [] := by
      rw [records, List.mem_cons, List.mem_singleton] at member
      rcases member with rfl | rfl
      · rw [queued.unique (queuedAs_bareRecord "b")]
      · rw [queued.unique (queuedAs_bareRecord "a")]
    exact Registry.not_crashesOnMatch_of_message (pattern ▸ taken)
  have distinct : ((Trigger.records bareBatch).map Trigger.messageId?).Nodup := by decide
  obtain ⟨report, _, _, failed, reorders, comes⟩ :=
    failure_report {} {} bareBatch g queue builds distinct settling matching
  have free : ∀ id ∈ (Trigger.records bareBatch).filterMap Trigger.messageId?,
      ¬ (Scene.of [.serve g, .listen 0]).InFlight id :=
    fun id _ => Scene.not_inFlight_of_listening g id
  refine ⟨g, report, registered, ?_, ?_⟩
  · intro id
    rw [failed, records]
    constructor
    · rintro ⟨record, member, own, q, queued, fails⟩
      simp only [List.mem_cons, List.not_mem_nil, or_false] at member
      rcases member with rfl | rfl
      · exact (Option.some.inj own).symm
      · obtain rfl := (queuedAs_bareRecord "a").unique queued
        have replied : g.outcome? ⟨"a", .object [], bareRecord "a", {}⟩
            = some (.ok (bareRecord "a")) := by
          unfold Registry.outcome?
          rw [taken]
          rfl
        have unsuccessful := Registry.fails_iff.mp fails
        rw [replied] at unsuccessful
        cases unsuccessful
    · rintro rfl
      refine ⟨bareRecord "b", List.mem_cons_self, rfl, _, queuedAs_bareRecord "b", ?_⟩
      exact .failed taken rfl
  · intro order permuted
    obtain ⟨queueAgain, same⟩ := reorders order permuted
    exact (comes (Trigger.reorder bareBatch order) [.serve g, .listen 0] 0 (fun _ => "") queueAgain
      (same.symm ▸ permuted) ⟨0, ⟨_, _, rfl, rfl, rfl, rfl⟩, rfl⟩ free).1

/-! ### A batch without a report -/

/-- A record of a queue with an empty list among its attributes. -/
def listRecord : Json :=
  .object [("eventSource", .string "aws:sqs"),
    ("messageAttributes", .object [("k", .object [("dataType", .string "String.Array")])]),
    ("messageId", .string "1")]

/-- The request that the record is made into. -/
def listRequest : Request := ⟨"1", .object [("k", .array [])], listRecord, {}⟩

/-- A batch of this record alone. -/
def listBatch : Json := .object [("Records", .array [listRecord])]

theorem queuedAs_listRecord : QueuedAs {} {} listRecord listRequest := by
  have decoded : QueueRecord.shape.decode listRecord
      = .ok ⟨"1", "", [("k", "String.Array", none)]⟩ := rfl
  exact ItemKind.queue_eq_ok_iff.mpr ⟨_, decoded, _, pattern_of_empty_body "1" _, rfl⟩

/-- A match crashes while a handler is looked for: the sequence that is wanted cannot be sorted. -/
theorem crashesOnMatch_listRequest {g : Registry} {handler : Handler}
    (registered : Registry.empty.register (.object [("k", .array Pattern.squeezedNumbers)]) handler
      .message { partialMatch := true } = .ok g) : g.CrashesOnMatch listRequest := by
  refine Registry.resolve_eq_crashed registered (by decide +kernel) ?_
  have wanted : Pattern.matchPartially (.array Pattern.squeezedNumbers) (.array []) = none := by
    refine (Pattern.matchPartially_array _ _).trans ?_
    rw [Pattern.sorted_squeezedNumbers]
    rfl
  rw [listRequest, Pattern.matchPartially_object, List.allM_cons, Fields.find?_cons, if_pos rfl,
    Option.elim_some, wanted]
  rfl

/-- An exchange whose server listens, while the subscription for the record's request waits. -/
def awaitingBatch (g : Registry) (buffer : List Request) (jobs : List Job) : Exchange :=
  ⟨{ consumer := some 0, pending := [("1", 0)], requests := [{ buffer }], responses := [{}] },
    [{ registry := g, loop := some { channel := 0 } }], jobs⟩

/-- The request is taken and its job ends without an answer. -/
theorem settle_lost {g : Registry} (lost : g.handle listRequest = .lost) :
    (awaitingBatch g [listRequest] []).settle = awaitingBatch g [] [] := by
  have taken : (awaitingBatch g [listRequest] []).nextMove?
      = some (awaitingBatch g [] [⟨g, listRequest⟩]) := rfl
  have ended : (awaitingBatch g [] [⟨g, listRequest⟩]).move (.finish 0)
      = some (awaitingBatch g [] []) := by
    simp only [Exchange.move, awaitingBatch, List.getElem?_cons_zero, Option.bind_eq_bind,
      Option.bind_some, lost]
    rfl
  have handled : (awaitingBatch g [] [⟨g, listRequest⟩]).nextMove?
      = some (awaitingBatch g [] []) := by
    change [Move.stop 0, .receive 0, .finish 0].findSome? _ = _
    rw [List.findSome?_cons, List.findSome?_cons, List.findSome?_cons, ended]
    rfl
  have rests : (awaitingBatch g [] []).nextMove? = none := rfl
  have length : (awaitingBatch g [listRequest] []).movesLeft = 3 := rfl
  rw [Exchange.settle, length, Exchange.moveOn, taken]
  simp only [Exchange.moveOn, handled, rests]

/-- A server listens with a handler that settles, and the only record of a batch has a message id
that is not in use; but a match crashes, so that there is no report. -/
theorem squeezed_batch_unreported : ∃ g : Registry,
    Registry.empty.register (.object [("k", .array Pattern.squeezedNumbers)])
      (.ofFunction fun q => .ok (.value q.data)) .message { partialMatch := true } = .ok g ∧
    Trigger.detect listBatch = .sqs ∧
    (∀ record ∈ Trigger.records listBatch, ∃ q, QueuedAs {} {} record q) ∧
    ((Trigger.records listBatch).map Trigger.messageId?).Nodup ∧
    (∀ r ∈ g.toList, r.handler.Settles) ∧
    (Scene.of [.serve g, .listen 0]).exchange.Listening 0 g ∧
    (∀ id, ¬ (Scene.of [.serve g, .listen 0]).InFlight id) ∧
    ((Scene.of [.serve g, .listen 0]).exchange.process {} (fun _ => "") {} listBatch).2 = none := by
  obtain ⟨g, registered⟩ := Registry.exists_register
    (Registry.contains_empty (.object [("k", .array Pattern.squeezedNumbers)]))
    (.ofFunction fun q => .ok (.value q.data)) .message { partialMatch := true }
  have settling : ∀ r ∈ g.toList, r.handler.Settles :=
    Registry.settles_of_register registered (Handler.settles_ofFunction _)
  have builds : ∀ record ∈ Trigger.records listBatch, ∃ q, QueuedAs {} {} record q :=
    List.forall_mem_singleton.mpr ⟨_, queuedAs_listRecord⟩
  refine ⟨g, registered, rfl, builds, List.nodup_singleton _, settling,
    ⟨0, ⟨_, _, rfl, rfl, rfl, rfl⟩, rfl⟩, Scene.not_inFlight_of_listening g, ?_⟩
  have lost := Registry.handle_of_crashesOnMatch (crashesOnMatch_listRequest registered)
  have dispatched : dispatch {} (fun _ => "") {} listBatch
      = .ok ⟨.failureReport ({} : MapperSettings).batchKey, [⟨listRequest, .unsent⟩]⟩ :=
    dispatch_queue (f := fun _ => listRequest) rfl
      (fun record member => (List.mem_singleton.mp member) ▸ queuedAs_listRecord) _
  have looked : (Scene.of [.serve g, .listen 0]).exchange.lookAll [⟨listRequest, .unsent⟩]
      = (awaitingBatch g [listRequest] [],
          [⟨listRequest, .waiting ⟨⟨"1", .following 0⟩, .null⟩⟩]) := rfl
  rw [Exchange.process, dispatched]
  simp only [Exchange.advance, looked, settle_lost lost]
  rfl

end MapperSettings
end EventDispatch
