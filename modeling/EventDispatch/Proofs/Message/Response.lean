import EventDispatch.Message.Packet
import EventDispatch.Proofs.Broker.Outcome
import EventDispatch.Proofs.Decode.Record
/-!
Responses in JSON and back.

Purpose: a response that is written as JSON and decoded again is the same response, save for one
thing: a value that is null, or details that are null, are written as null and read as absent. So
the outcome of responses can be another one behind the wire. This happens in two cases: the outcome
is an error answer whose details are null, or it is a null that took the place of another value.

Main exports: `Response.withoutNull`, `Response.decode_toJson`, `Response.SaysNoNull`,
`Bus.overWire`, `Bus.outcome?_overWire`, `Response.reads_back_but_for_null`.
-/

namespace EventDispatch

open Record (holds_of_write exists_decode)
open Fields (find?_ofList find?_cons)

theorem ErrorKind.decode_name (k : ErrorKind) : decode (Json.string k.name) = .ok k := by
  cases k <;> rfl

/-! ### Error answers -/

namespace ResponseError

/-- The error answer without details that are null. -/
def withoutNull (e : ResponseError) : ResponseError :=
  { e with details := e.details.filter (!·.isNull) }

theorem holds_kind : (shape : Record Json ResponseError).Holds "kind" ErrorKind.decode kind :=
  holds_of_write rfl rfl (fun _ _ => rfl) (by simp [shape])

theorem holds_message : (shape : Record Json ResponseError).Holds "message" Decode.string message :=
  holds_of_write rfl rfl (fun _ _ => rfl) (by simp [shape])

theorem holds_details : (shape : Record Json ResponseError).Holds "details"
    (Decode.optional Decode.any) details :=
  holds_of_write rfl rfl (fun _ _ => rfl) (by simp [shape])

theorem get?_kind (e : ResponseError) : e.toJson.get? "kind" = some (.string e.kind.name) := by
  unfold toJson
  cases e.details <;> simp [Json.ofPairs, Json.get?, find?_ofList, find?_cons]

theorem get?_message (e : ResponseError) : e.toJson.get? "message" = some (.string e.message) := by
  unfold toJson
  cases e.details <;> simp [Json.ofPairs, Json.get?, find?_ofList, find?_cons]

theorem get?_details (e : ResponseError) : e.toJson.get? "details" = e.details := by
  unfold toJson
  cases e.details <;> simp [Json.ofPairs, Json.get?, find?_ofList, find?_cons]

/-- An error answer is read back without details that are null. -/
theorem decode_toJson (e : ResponseError) : decode e.toJson = .ok e.withoutNull := by
  obtain ⟨r, decoded⟩ : ∃ r, shape.decode e.toJson = .ok r := by
    apply exists_decode (.ofList _)
    simp only [shape, List.forall_mem_cons]
    exact ⟨Field.fits_required e.get?_kind e.kind.decode_name,
      Field.fits_required e.get?_message rfl,
      Field.fits_defaulted fun v _ => Decode.exists_optional_any v, by simp⟩
  have kind := holds_kind.of_get? decoded e.get?_kind
  have message := holds_message.of_get? decoded e.get?_message
  have details := holds_details.of_optional_any rfl decoded
  rw [show Fields.find? "details" _ = e.details from e.get?_details] at details
  rw [ErrorKind.decode_name] at kind
  rw [Decode.string_string] at message
  unfold decode
  rw [decoded]
  obtain ⟨k, m, d⟩ := r
  cases kind
  cases message
  cases details
  rfl

end ResponseError

/-! ### Responses -/

namespace Response

/-- The response without a value or details that are null. -/
def withoutNull (r : Response) : Response :=
  { r with value := r.value.filter (!·.isNull), error := r.error.map ResponseError.withoutNull }

theorem holds_id : (shape : Record Json Response).Holds "id" Decode.string id :=
  holds_of_write rfl rfl (fun _ _ => rfl) (by simp [shape])

theorem holds_value : (shape : Record Json Response).Holds "response"
    (Decode.optional Decode.any) value :=
  holds_of_write rfl rfl (fun _ _ => rfl) (by simp [shape])

theorem holds_error : (shape : Record Json Response).Holds "err"
    (Decode.optional ResponseError.decode) error :=
  holds_of_write rfl rfl (fun _ _ => rfl) (by simp [shape])

theorem holds_terminal : (shape : Record Json Response).Holds "isDisposed" Decode.bool terminal :=
  holds_of_write rfl rfl (fun _ _ => rfl) (by simp [shape])

/-- What is written under the four names. -/
theorem get?_toJson (r : Response) :
    r.toJson.get? "id" = some (.string r.id) ∧ r.toJson.get? "response" = r.value ∧
      r.toJson.get? "err" = r.error.map ResponseError.toJson ∧
      r.toJson.get? "isDisposed" = some (.bool r.terminal) := by
  unfold toJson
  cases r.value <;> cases r.error <;>
    simp [Json.ofPairs, Json.get?, find?_ofList, find?_cons]

/-- A response is read back without a value or details that are null. -/
theorem decode_toJson (r : Response) : decode r.toJson = .ok r.withoutNull := by
  obtain ⟨writtenId, writtenValue, writtenError, writtenTerminal⟩ := r.get?_toJson
  obtain ⟨q, decoded⟩ : ∃ q, shape.decode r.toJson = .ok q := by
    apply exists_decode (.ofList _)
    simp only [shape, List.forall_mem_cons]
    exact ⟨Field.fits_required writtenId rfl,
      Field.fits_defaulted fun v _ => Decode.exists_optional_any v,
      Field.fits_defaulted (Decode.exists_optional ResponseError.decode_toJson writtenError),
      Field.fits_defaulted fun v present => ⟨r.terminal, by
        rw [← Option.some.inj (writtenTerminal.symm.trans present)]
        rfl⟩, by simp⟩
  have id := holds_id.of_get? decoded writtenId
  have value := holds_value.of_optional_any rfl decoded
  rw [show Fields.find? "response" _ = r.value from writtenValue] at value
  have error := holds_error.of_optional rfl ResponseError.decode_toJson decoded writtenError
  have terminal := holds_terminal.of_get? decoded writtenTerminal
  have objects : (r.error.filter fun e => !e.toJson.isNull) = r.error := by
    cases r.error <;> rfl
  rw [objects] at error
  unfold decode
  rw [decoded]
  obtain ⟨i, v, e, t⟩ := q
  cases id
  cases value
  cases error
  cases terminal
  rfl

/-- The response has nothing that is present and null. -/
def SaysNoNull (r : Response) : Prop :=
  r.value ≠ some .null ∧ ∀ e, r.error = some e → e.details ≠ some .null

end Response

theorem ResponseError.withoutNull_eq_iff {e : ResponseError} :
    e.withoutNull = e ↔ e.details ≠ some .null := by
  rw [← Json.filter_not_isNull_eq_iff]
  obtain ⟨k, m, d⟩ := e
  simp [withoutNull]

namespace Response

theorem withoutNull_eq_iff {r : Response} : r.withoutNull = r ↔ r.SaysNoNull := by
  unfold SaysNoNull
  rw [← Json.filter_not_isNull_eq_iff]
  obtain ⟨i, v, e, t⟩ := r
  cases e with
  | none => simp [withoutNull]
  | some e => simp [withoutNull, ResponseError.withoutNull_eq_iff]

theorem heard_withoutNull (rs : List Response) :
    heard (rs.map withoutNull) = (heard rs).map withoutNull := by
  induction rs with
  | nil => rfl
  | cons r rest inductionHypothesis =>
      rw [List.map_cons, heard_cons, heard_cons, inductionHypothesis]
      cases terminal : r.terminal <;> simp [withoutNull, terminal]

theorem firstError_withoutNull (rs : List Response) :
    firstError (rs.map withoutNull) = (firstError rs).map ResponseError.withoutNull := by
  unfold firstError
  rw [heard_withoutNull, List.findSome?_map, List.map_findSome?]
  rfl

theorem values_withoutNull (rs : List Response) :
    values (rs.map withoutNull) = (values rs).filter (!·.isNull) := by
  unfold values
  rw [heard_withoutNull, List.filterMap_map, List.filter_filterMap]
  rfl

/-- Without nulls among them the last of values is null only if there are none. -/
theorem getLastD_filter_eq_null_iff (vs : List Json) :
    (vs.filter (!·.isNull)).getLastD .null = .null ↔ ¬ ∃ v ∈ vs, v ≠ .null := by
  have nothing : (vs.filter (!·.isNull)) = [] ↔ ¬ ∃ v ∈ vs, v ≠ .null := by
    simp [List.filter_eq_nil_iff, Json.isNull_iff]
  rw [← nothing]
  rcases List.eq_nil_or_concat (vs.filter (!·.isNull)) with none | ⟨front, v, last⟩
  · simp [none]
  · have member : v ∈ vs.filter (!·.isNull) := by simp [last]
    have present : v ≠ .null := by
      rw [ne_eq, ← Json.isNull_iff]
      simpa using (List.mem_filter.mp member).2
    simp [last, present]

/-- The last value stays the same without nulls, unless it is a null that comes after others. -/
theorem getLastD_filter_iff (vs : List Json) :
    (vs.filter (!·.isNull)).getLastD .null = vs.getLastD .null ↔
      ¬ (vs.getLastD .null = .null ∧ ∃ v ∈ vs, v ≠ .null) := by
  by_cases null : vs.getLastD .null = .null
  · rw [null, getLastD_filter_eq_null_iff]
    simp
  · simp only [null, false_and, not_false_eq_true, iff_true]
    rcases List.eq_nil_or_concat vs with rfl | ⟨front, v, rfl⟩
    · exact absurd rfl null
    · have kept : v.isNull = false := by
        rw [Bool.eq_false_iff, ne_eq, Json.isNull_iff]
        simpa using null
      simp [kept]

end Response

namespace Bus

/-- The bus whose responses have been written as JSON and decoded again. -/
def overWire (b : Bus) : Bus :=
  { b with
    responses := b.responses.map fun channel =>
      { channel with
        buffer := channel.buffer.filterMap fun r => (Response.decode r.toJson).toOption } }

theorem unread_overWire (b : Bus) (s : Stream) :
    b.overWire.unread s = (b.unread s).map Response.withoutNull := by
  have arrives : (fun r : Response => (Response.decode r.toJson).toOption)
      = fun r => some r.withoutNull := by
    funext r
    rw [Response.decode_toJson]
    rfl
  unfold unread
  cases s.state with
  | failed e => rfl
  | ended => rfl
  | following c =>
      simp only [overWire, arrives, Channels.waiting, List.getElem?_map]
      cases b.responses[c]? <;> simp

/-- Behind the wire the outcome is the same, except that an error answer loses details that are
null, and that a null which is the last of several values gives way to another one. -/
theorem outcome?_overWire (b : Bus) (s : Stream) :
    b.overWire.outcome? s = b.outcome? s ↔
      (¬ ∃ e, b.outcome? s = some (.error ⟨s.id, .remote e⟩) ∧ e.details = some .null) ∧
      ¬ (b.outcome? s = some (.ok .null) ∧ ∃ v ∈ Response.values (b.unread s), v ≠ .null) := by
  cases state : s.state with
  | failed e => simp [outcome?, await, follow, poll, state, Except.toOption]
  | ended => simp [outcome?, await, follow, poll, state, Except.toOption]
  | following c =>
      have held : b.overWire.subscriberHeld c = b.subscriberHeld c := rfl
      rw [outcome?_following state, outcome?_following state, held, unread_overWire,
        Response.collapse_eq, Response.collapse_eq, Response.firstError_withoutNull,
        Response.values_withoutNull]
      have ended : ((b.unread s).map Response.withoutNull).any (·.terminal)
          = (b.unread s).any (·.terminal) := by
        rw [List.any_map]
        rfl
      rw [ended]
      cases Response.firstError (b.unread s) with
      | some e => simp [ResponseError.withoutNull_eq_iff]
      | none =>
          cases (b.unread s).any (·.terminal) with
          | true => simpa using Response.getLastD_filter_iff (Response.values (b.unread s))
          | false => cases b.subscriberHeld c <;> simp

/-- A value, and then a null that answers the request. -/
def nullAtLast : Bus :=
  { responses := [{ buffer := [.interim "1" (.bool true), .reply "1" .null] }] }

end Bus

namespace Response

/-- A response that crosses the wire comes back without what was null in it, and is the same if
there was nothing of the kind. The outcome of any responses that cross the wire is the same, unless
it is an error answer whose details are null, or a null that was heard along with other values. -/
theorem reads_back_but_for_null (r : Response) (b : Bus) (s : Stream) :
    decode r.toJson = .ok r.withoutNull ∧ (decode r.toJson = .ok r ↔ r.SaysNoNull) ∧
    (b.overWire.outcome? s = b.outcome? s ↔
      (¬ ∃ e, b.outcome? s = some (.error ⟨s.id, .remote e⟩) ∧ e.details = some .null) ∧
      ¬ (b.outcome? s = some (.ok .null) ∧ ∃ v ∈ values (b.unread s), v ≠ .null)) := by
  refine ⟨r.decode_toJson, ?_, b.outcome?_overWire s⟩
  rw [r.decode_toJson, Except.ok.injEq]
  exact withoutNull_eq_iff

/-- A null that answers a request is read as no value at all, and then an earlier value counts as
the answer. -/
theorem null_answer_forgotten :
    decode (reply "1" .null).toJson ≠ .ok (reply "1" .null) ∧
      Bus.nullAtLast.outcome? ⟨"1", .following 0⟩ = some (.ok .null) ∧
      Bus.nullAtLast.overWire.outcome? ⟨"1", .following 0⟩ = some (.ok (.bool true)) := by
  refine ⟨?_, rfl, ?_⟩
  · rw [decode_toJson, ne_eq, Except.ok.injEq, withoutNull_eq_iff]
    exact fun present => present.1 rfl
  · rfl

end Response
end EventDispatch
