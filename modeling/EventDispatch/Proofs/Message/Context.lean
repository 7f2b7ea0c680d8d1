import EventDispatch.Message.Context
import EventDispatch.Proofs.Decode.Record
/-!
Invocation contexts in JSON and back.

Purpose: known and extra particulars stand in one object, and come apart again by their names alone.
A context is plain when no extra particular has a known name; what is decoded is plain, and a plain
context is read back as it was written. An object that was decoded is written again as it was, save
for known particulars that were null.

Main exports: `Context.Plain`, `Context.plain_of_decode`, `Context.Plain.insert`,
`Context.decode_toJson`, `Context.toJson_of_decode`.
-/

namespace EventDispatch.Context

open Record (holds_of_write exists_decode)

/-- The extra particulars are a map, and none of them has the name of a known one. -/
structure Plain (c : Context) : Prop where
  ordered : c.extra.Sorted
  apart : ∀ name ∈ knownNames, c.extra.find? name = none

variable {c : Context} {name : String}

theorem plain_blank : ({} : Context).Plain := ⟨.nil, fun _ _ => rfl⟩

theorem Plain.insert (plain : c.Plain) {value : Json} (unknown : name ∉ knownNames) :
    (c.insert name value).Plain where
  ordered := plain.ordered.insert name value
  apart := by
    intro other known
    have differs : other ≠ name := by
      rintro rfl
      exact unknown known
    unfold Context.insert
    rw [Fields.find?_insert, if_neg differs]
    exact plain.apart other known

/-! ### What stands in the object -/

theorem knownNames_nodup : knownNames.Nodup := by decide

/-- What is found under the seven names. -/
theorem find?_known (c : Context) :
    Fields.find? "invocationId" c.known.reverse = c.invocationId.map Json.string ∧
      Fields.find? "functionName" c.known.reverse = c.functionName.map Json.string ∧
      Fields.find? "functionVersion" c.known.reverse = c.functionVersion.map Json.string ∧
      Fields.find? "functionArn" c.known.reverse = c.functionArn.map Json.string ∧
      Fields.find? "memoryLimitMb" c.known.reverse
        = c.memoryLimitMb.map (fun n => Json.ofInt n.toNat) ∧
      Fields.find? "deadlineMs" c.known.reverse
        = c.deadlineMs.map (fun n => Json.ofInt n.toNat) ∧
      Fields.find? "traceId" c.known.reverse = c.traceId.map Json.string := by
  unfold known
  refine ⟨?_, ?_, ?_, ?_, ?_, ?_, ?_⟩ <;>
    exact (Fields.find?_present (by exact knownNames_nodup) _).trans rfl

theorem find?_known_of_unknown (unknown : name ∉ knownNames) (c : Context) :
    Fields.find? name c.known.reverse = none := by
  rw [Option.eq_none_iff_forall_ne_some]
  intro value found
  have member := List.mem_reverse.mp (Fields.mem_of_find? found)
  unfold known at member
  obtain ⟨pair, listed, present⟩ := List.mem_filterMap.mp member
  obtain ⟨_, _, same⟩ := Option.map_eq_some_iff.mp present
  cases same
  exact unknown (List.mem_map_of_mem listed)

theorem find?_toJson (plain : c.Plain) (name : String) :
    Fields.find? name (Fields.union (Fields.ofList c.known) c.extra)
      = if name ∈ knownNames then Fields.find? name c.known.reverse else c.extra.find? name := by
  rw [Fields.find?_union, plain.ordered.find?_reverse, Fields.find?_ofList]
  split
  · rename_i known
    rw [plain.apart name known]
    rfl
  · rename_i unknown
    rw [find?_known_of_unknown unknown]
    exact Option.or_none

/-- Contexts with the same known and the same extra particulars are the same. -/
theorem eq_of_known {first second : Context}
    (known : ∀ name ∈ knownNames,
      Fields.find? name first.known.reverse = Fields.find? name second.known.reverse)
    (extra : first.extra = second.extra) : first = second := by
  have strings : Function.Injective (Option.map Json.string) :=
    Option.map_injective fun _ _ => Json.string.inj
  have words32 : Function.Injective (Option.map fun n : UInt32 => Json.ofInt n.toNat) := by
    apply Option.map_injective
    intro n m same
    exact Except.ok.inj ((Decode.word32_eq_ok_iff.mpr rfl).symm.trans
      (Decode.word32_eq_ok_iff.mpr same))
  have words64 : Function.Injective (Option.map fun n : UInt64 => Json.ofInt n.toNat) := by
    apply Option.map_injective
    intro n m same
    exact Except.ok.inj ((Decode.word64_eq_ok_iff.mpr rfl).symm.trans
      (Decode.word64_eq_ok_iff.mpr same))
  simp only [knownNames, List.forall_mem_cons, find?_known, strings.eq_iff, words32.eq_iff,
    words64.eq_iff] at known
  obtain ⟨invocation, function, version, arn, memory, deadline, trace, _⟩ := known
  cases first
  cases second
  simp_all

/-! ### What is decoded -/

theorem decode_eq_ok_iff {σ : Type} [Source σ] {s : σ} :
    decode s = .ok c ↔ ∃ d, shape.decode s = .ok d ∧ { d with extra := extraEntries s } = c := by
  unfold decode
  cases shape.decode s <;> simp [Except.map]

/-- What is decoded is plain. -/
theorem plain_of_decode {σ : Type} [Source σ] {s : σ} (decoded : decode s = .ok c) : c.Plain := by
  obtain ⟨d, _, rfl⟩ := decode_eq_ok_iff.mp decoded
  unfold extraEntries
  split
  · rename_i entries _
    refine ⟨.ofList _, ?_⟩
    intro name known
    rw [Option.eq_none_iff_forall_ne_some]
    intro value found
    obtain ⟨entry, listed, same⟩ :=
      List.mem_map.mp (Fields.mem_ofList (Fields.mem_of_find? found))
    cases same
    have unknown := (List.mem_filter.mp listed).2
    simp [known] at unknown
  · exact ⟨.nil, fun _ _ => rfl⟩

theorem holds_invocationId : (shape : Record Json Context).Holds "invocationId"
    (Decode.optional Decode.string) invocationId :=
  holds_of_write rfl rfl (fun _ _ => rfl) (by simp [shape])

theorem holds_functionName : (shape : Record Json Context).Holds "functionName"
    (Decode.optional Decode.string) functionName :=
  holds_of_write rfl rfl (fun _ _ => rfl) (by simp [shape])

theorem holds_functionVersion : (shape : Record Json Context).Holds "functionVersion"
    (Decode.optional Decode.string) functionVersion :=
  holds_of_write rfl rfl (fun _ _ => rfl) (by simp [shape])

theorem holds_functionArn : (shape : Record Json Context).Holds "functionArn"
    (Decode.optional Decode.string) functionArn :=
  holds_of_write rfl rfl (fun _ _ => rfl) (by simp [shape])

theorem holds_memoryLimitMb : (shape : Record Json Context).Holds "memoryLimitMb"
    (Decode.optional Decode.word32) memoryLimitMb :=
  holds_of_write rfl rfl (fun _ _ => rfl) (by simp [shape])

theorem holds_deadlineMs : (shape : Record Json Context).Holds "deadlineMs"
    (Decode.optional Decode.word64) deadlineMs :=
  holds_of_write rfl rfl (fun _ _ => rfl) (by simp [shape])

theorem holds_traceId : (shape : Record Json Context).Holds "traceId"
    (Decode.optional Decode.string) traceId :=
  holds_of_write rfl rfl (fun _ _ => rfl) (by simp [shape])

section Objects

variable {fields : Fields Json}

/-- The known particulars that were decoded are those that are not null. -/
theorem find?_known_of_decode (decoded : decode (Json.object fields) = .ok c)
    (known : name ∈ knownNames) :
    Fields.find? name c.known.reverse = (fields.find? name).filter (!·.isNull) := by
  obtain ⟨d, read, rfl⟩ := decode_eq_ok_iff.mp decoded
  revert name
  simp only [knownNames, List.forall_mem_cons, find?_known]
  refine ⟨?_, ?_, ?_, ?_, ?_, ?_, ?_, by simp⟩
  · exact holds_invocationId.map_of_optional rfl Decode.string_eq_ok_iff.mp read
  · exact holds_functionName.map_of_optional rfl Decode.string_eq_ok_iff.mp read
  · exact holds_functionVersion.map_of_optional rfl Decode.string_eq_ok_iff.mp read
  · exact holds_functionArn.map_of_optional rfl Decode.string_eq_ok_iff.mp read
  · exact holds_memoryLimitMb.map_of_optional rfl Decode.word32_eq_ok_iff.mp read
  · exact holds_deadlineMs.map_of_optional rfl Decode.word64_eq_ok_iff.mp read
  · exact holds_traceId.map_of_optional rfl Decode.string_eq_ok_iff.mp read

/-- The extra particulars that were decoded are all entries under other names. -/
theorem find?_extra_of_decode (sorted : fields.Sorted)
    (decoded : decode (Json.object fields) = .ok c) (unknown : name ∉ knownNames) :
    c.extra.find? name = fields.find? name := by
  obtain ⟨d, _, rfl⟩ := decode_eq_ok_iff.mp decoded
  have entries : extraEntries (Json.object fields)
      = Fields.ofList (fields.filter fun e => !knownNames.contains e.1) :=
    congrArg Fields.ofList (List.map_id' _)
  rw [entries, Fields.find?_ofList, (sorted.filter _).find?_reverse, sorted.find?_filter]
  cases fields.find? name <;> simp [Option.filter_some, unknown]

/-- An object that was decoded is written again as it was, save for known particulars that were
null. -/
theorem toJson_of_decode (sorted : fields.Sorted)
    (decoded : decode (Json.object fields) = .ok c) :
    c.toJson = .object (fields.filter fun e => !(knownNames.contains e.1 && e.2.isNull)) := by
  apply congrArg Json.object
  apply Fields.Sorted.ext (.union (.ofList _) _) (sorted.filter _)
  intro name
  rw [find?_toJson (plain_of_decode decoded), sorted.find?_filter]
  split
  · rename_i known
    rw [find?_known_of_decode decoded known]
    simp [known]
  · rename_i unknown
    rw [find?_extra_of_decode sorted decoded unknown]
    cases fields.find? name <;> simp [Option.filter_some, unknown]

end Objects

/-! ### What was written -/

/-- A known particular that is present is not null. -/
theorem find?_known_ne_null (c : Context) (name : String) :
    Fields.find? name c.known.reverse ≠ some .null := by
  by_cases known : name ∈ knownNames
  · revert name
    simp [knownNames, find?_known, Json.ofInt]
  · simp [find?_known_of_unknown known]

/-- What was written for a plain context can be decoded. -/
theorem exists_decode_toJson (plain : c.Plain) : ∃ d, decode c.toJson = .ok d := by
  have words32 : ∀ n : UInt32, Decode.word32 (Json.ofInt n.toNat) = .ok n :=
    fun _ => Decode.word32_eq_ok_iff.mpr rfl
  have words64 : ∀ n : UInt64, Decode.word64 (Json.ofInt n.toNat) = .ok n :=
    fun _ => Decode.word64_eq_ok_iff.mpr rfl
  have written : ∀ name ∈ knownNames, Fields.find? name
      (Fields.union (Fields.ofList c.known) c.extra) = Fields.find? name c.known.reverse :=
    fun name known => (find?_toJson plain name).trans (if_pos known)
  simp only [knownNames, List.forall_mem_cons, find?_known] at written
  obtain ⟨invocation, function, version, arn, memory, deadline, trace, _⟩ := written
  obtain ⟨d, decoded⟩ : ∃ d, shape.decode c.toJson = .ok d := by
    apply exists_decode (.union (.ofList _) _)
    simp only [shape, List.forall_mem_cons]
    exact ⟨Field.fits_defaulted (Decode.exists_optional Decode.string_string invocation),
      Field.fits_defaulted (Decode.exists_optional Decode.string_string function),
      Field.fits_defaulted (Decode.exists_optional Decode.string_string version),
      Field.fits_defaulted (Decode.exists_optional Decode.string_string arn),
      Field.fits_defaulted (Decode.exists_optional words32 memory),
      Field.fits_defaulted (Decode.exists_optional words64 deadline),
      Field.fits_defaulted (Decode.exists_optional Decode.string_string trace), by simp⟩
  exact ⟨_, decode_eq_ok_iff.mpr ⟨d, decoded, rfl⟩⟩

/-- A plain context is read back as it was written. -/
theorem decode_toJson (plain : c.Plain) : decode c.toJson = .ok c := by
  obtain ⟨d, decoded⟩ := exists_decode_toJson plain
  have sorted := Fields.Sorted.union (.ofList c.known) c.extra
  have readPlain := plain_of_decode decoded
  rw [decoded]
  apply congrArg Except.ok
  apply eq_of_known
  · intro name known
    rw [find?_known_of_decode decoded known, find?_toJson plain, if_pos known]
    exact Json.filter_not_isNull_eq_iff.mpr (c.find?_known_ne_null name)
  · apply readPlain.ordered.ext plain.ordered
    intro name
    by_cases known : name ∈ knownNames
    · rw [readPlain.apart name known, plain.apart name known]
    · rw [find?_extra_of_decode sorted decoded known, find?_toJson plain, if_neg known]

end EventDispatch.Context
