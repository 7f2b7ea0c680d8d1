import EventDispatch.Message.Packet
import EventDispatch.Proofs.Message.Context
/-!
Requests in JSON and back.

Purpose: a request whose context is plain is read back as it was written: its id, its pattern of any
depth, its data and its context. Whatever is decoded has a plain context, and recording particulars
under names that are not known leaves it plain.

Main exports: `Request.decode_toJson`, `Request.plain_of_decode`, `Request.reads_back`.
-/

namespace EventDispatch.Request

open Record (holds_of_write exists_decode)
open Fields (find?_ofList find?_cons)

theorem holds_id : (shape : Record Json Request).Holds "id" Decode.string id :=
  holds_of_write rfl rfl (fun _ _ => rfl) (by simp [shape])

theorem holds_pattern : (shape : Record Json Request).Holds "pattern" Decode.any pattern :=
  holds_of_write (w := fun x r => { r with pattern := x }) rfl rfl (fun _ _ => rfl)
    (by simp [shape])

theorem holds_data : (shape : Record Json Request).Holds "data" Decode.any data :=
  holds_of_write (w := fun x r => { r with data := x }) rfl rfl (fun _ _ => rfl) (by simp [shape])

theorem holds_context : (shape : Record Json Request).Holds "context" Context.decode context :=
  holds_of_write rfl rfl (fun _ _ => rfl) (by simp [shape])

/-- What is written under the four names. -/
theorem get?_toJson (r : Request) :
    r.toJson.get? "id" = some (.string r.id) ∧ r.toJson.get? "pattern" = some r.pattern ∧
      r.toJson.get? "data" = some r.data ∧ r.toJson.get? "context" = some r.context.toJson := by
  unfold toJson
  simp [Json.ofPairs, Json.get?, find?_ofList, find?_cons]

/-- A request with a plain context is read back as it was written. -/
theorem decode_toJson {r : Request} (plain : r.context.Plain) : decode r.toJson = .ok r := by
  obtain ⟨writtenId, writtenPattern, writtenData, writtenContext⟩ := r.get?_toJson
  have context := Context.decode_toJson plain
  obtain ⟨q, decoded⟩ : ∃ q, shape.decode r.toJson = .ok q := by
    apply exists_decode (.ofList _)
    simp only [shape, List.forall_mem_cons]
    refine ⟨Field.fits_required writtenId rfl, Field.fits_required writtenPattern rfl,
      Field.fits_defaulted fun v _ => ⟨v, rfl⟩, Field.fits_defaulted ?_, by simp⟩
    intro v present
    rw [← Option.some.inj (writtenContext.symm.trans present)]
    exact ⟨r.context, context⟩
  have sameId := holds_id.of_get? decoded writtenId
  have samePattern := holds_pattern.of_get? decoded writtenPattern
  have sameData := holds_data.of_get? decoded writtenData
  have sameContext := holds_context.of_get? decoded writtenContext
  rw [context] at sameContext
  unfold decode
  rw [decoded]
  obtain ⟨i, p, d, c⟩ := q
  cases sameId
  cases samePattern
  cases sameData
  cases sameContext
  rfl

/-- A request that was decoded has a plain context. -/
theorem plain_of_decode {σ : Type} [Source σ] {s : σ} {r : Request} (decoded : decode s = .ok r) :
    r.context.Plain := by
  apply Record.decode_keeps (P := fun r : Request => r.context.Plain) _ Context.plain_blank decoded
  simp only [shape, List.forall_mem_cons]
  refine ⟨?_, ?_, ?_, ?_, by simp⟩
  · apply Field.keeps_required
    intro _ _ _ _ plain
    exact plain
  · apply Field.keeps_required
    intro _ _ _ _ plain
    exact plain
  · apply Field.keeps_defaulted
    intro _ _ _ _ plain
    exact plain
  · apply Field.keeps_defaulted
    intro _ _ _ read _
    exact Context.plain_of_decode read

/-- A request whose context has no extra particular under a known name is the same after it was
written and decoded. Every context that was decoded is of that kind, and stays so when particulars
are recorded under names that are not known. An object that was decoded as a context is written
again as it was, without the known particulars that were null. -/
theorem reads_back :
    (∀ r : Request, r.context.Plain → decode r.toJson = .ok r) ∧
    (∀ {σ : Type} [Source σ] (s : σ) (c : Context), Context.decode s = .ok c → c.Plain) ∧
    (∀ {σ : Type} [Source σ] (s : σ) (r : Request), decode s = .ok r → r.context.Plain) ∧
    (∀ (c : Context) (name : String) (value : Json), c.Plain → name ∉ Context.knownNames →
      (c.insert name value).Plain) ∧
    ∀ (fields : Fields Json) (c : Context), fields.Sorted →
      Context.decode (Json.object fields) = .ok c →
        c.toJson = .object
          (fields.filter fun e => !(Context.knownNames.contains e.1 && e.2.isNull)) := by
  refine ⟨?_, ?_, ?_, ?_, ?_⟩
  · intro r plain
    exact decode_toJson plain
  · intro σ _ s c decoded
    exact Context.plain_of_decode decoded
  · intro σ _ s r decoded
    exact plain_of_decode decoded
  · intro c name value plain unknown
    exact plain.insert unknown
  · intro fields c sorted decoded
    exact Context.toJson_of_decode sorted decoded

/-- An object with a known particular, one that is null, and one of another name. -/
def circumstances : Fields Json :=
  [("deadlineMs", .ofInt 1700), ("region", .null), ("traceId", .null)]

/-- What the object is decoded to. -/
def visit : Context := { deadlineMs := some 1700, extra := [("region", .null)] }

/-- The null under the unknown name is kept, the one under the known name is not. -/
theorem visit_reads_back :
    Context.decode (Json.object circumstances) = .ok visit ∧
      visit.toJson = .object [("deadlineMs", .ofInt 1700), ("region", .null)] ∧
      decode (toJson ⟨"1", .array [.object [("cmd", .null)]], .null, visit.insert "zone" .null⟩)
        = .ok ⟨"1", .array [.object [("cmd", .null)]], .null, visit.insert "zone" .null⟩ := by
  have decoded : Context.decode (Json.object circumstances) = .ok visit := by rfl
  obtain ⟨written, plain, _, stays, again⟩ := reads_back
  refine ⟨decoded, ?_, ?_⟩
  · have sorted : circumstances.Sorted := by
      unfold Fields.Sorted
      decide
    apply (again circumstances visit sorted decoded).trans
    rfl
  · apply written
    exact stays visit "zone" .null (plain _ visit decoded) (by decide)

end EventDispatch.Request
