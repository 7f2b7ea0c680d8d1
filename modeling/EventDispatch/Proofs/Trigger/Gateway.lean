import EventDispatch.Proofs.Trigger.QueueBatch
/-!
Calls through the API gateway.

Purpose: a call comes in one of two payload formats. The kind of an event tells them apart by the
names that each format has, and making the request looks once more, for the name of the method
alone. The two looks agree on every event but one that is of the second kind and has the name of the
method beside its route key: its request is made as if the event were of the first format.

Main exports: `GatewayRoute.Splits`, `GatewayRoute.route_of_splits`, `ItemKind.gateway_call_iff`,
`ItemKind.gateway_route_iff`, `Pattern.Routes`, `MapperSettings.map_gateway_iff`,
`MapperSettings.formats_agree_but_for_overlap`.
-/

namespace EventDispatch

/-! ### Route keys -/

theorem splitAtBlank_of_unbroken {cs : List Char} (unbroken : ' ' ∉ cs) :
    splitAtBlank cs = (cs, none) := by
  induction cs with
  | nil => rfl
  | cons c cs inductionHypothesis =>
      obtain ⟨other, rest⟩ := not_or.mp (List.mem_cons.not.mp unbroken)
      simp only [splitAtBlank, if_neg (Ne.symm other), inductionHypothesis rest]

theorem splitAtBlank_append {front : List Char} (unbroken : ' ' ∉ front) (back : List Char) :
    splitAtBlank (front ++ ' ' :: back) = (front, some back) := by
  induction front with
  | nil => rfl
  | cons c cs inductionHypothesis =>
      obtain ⟨other, rest⟩ := not_or.mp (List.mem_cons.not.mp unbroken)
      simp only [List.cons_append, splitAtBlank, if_neg (Ne.symm other), inductionHypothesis rest]

namespace GatewayRoute

/-- A route key consists of a method and, behind its first blank, a resource. Without a blank it is
all method. -/
inductive Splits : (key method : String) → (resource : Option String) → Prop where
  | both {key method resource : String} (unbroken : ' ' ∉ method.toList)
      (whole : key = method ++ " " ++ resource) : Splits key method (some resource)
  | method {key : String} (unbroken : ' ' ∉ key.toList) : Splits key key none

theorem exists_splits (key : String) : ∃ method resource, Splits key method resource := by
  by_cases broken : ' ' ∈ key.toList
  · obtain ⟨front, back, whole, unbroken⟩ := List.eq_append_cons_of_mem broken
    refine ⟨String.ofList front, some (String.ofList back), .both (by simpa using unbroken) ?_⟩
    apply String.toList_injective
    simpa using whole
  · exact ⟨key, none, .method broken⟩

/-- The parts of a route key are the method and the resource of the route. -/
theorem route_of_splits {r : GatewayRoute} {method : String} {resource : Option String}
    (splits : Splits r.routeKey method resource) : r.route = (method, resource) := by
  unfold route
  cases splits with
  | both unbroken whole =>
      have cut := splitAtBlank_append unbroken
      simp [whole, cut]
  | method unbroken => simp [splitAtBlank_of_unbroken unbroken]

end GatewayRoute

/-! ### Requests of calls -/

/-- A pattern of a call names a method and a resource. -/
structure Pattern.Routes (p : Pattern) (method resource : Json) : Prop where
  method : p.get? "httpMethod" = some method
  resource : p.get? "resource" = some resource

/-- A pattern names one method and one resource. -/
theorem Pattern.Routes.unique {p : Pattern} {method resource method' resource' : Json}
    (routes : p.Routes method resource) (again : p.Routes method' resource') :
    method = method' ∧ resource = resource' :=
  ⟨Option.some.inj (routes.method.symm.trans again.method),
    Option.some.inj (routes.resource.symm.trans again.resource)⟩

theorem ItemKind.routes_gatewayPattern (method : String) (resource : Option String)
    (query path : Option (Fields Json)) :
    (gatewayPattern method resource query path).Routes (.string method)
      ((resource.map Json.string).getD .null) where
  method := by
    unfold gatewayPattern Json.ofPairs
    rw [Json.get?_object, Fields.find?_ofList]
    rfl
  resource := by
    unfold gatewayPattern Json.ofPairs
    rw [Json.get?_object, Fields.find?_ofList]
    rfl

/-- What has a value under a name is an object. -/
theorem Json.exists_fields_of_isSome {v : Json} {name : String}
    (present : (v.get? name).isSome = true) : ∃ fields, v = .object fields := by
  cases v with
  | object fields => exact ⟨fields, rfl⟩
  | _ => cases present

/-- Where null stands for what is missing it makes no difference whether null is left out. -/
theorem Json.getD_filter_not_isNull (o : Option Json) :
    (o.filter (!·.isNull)).getD .null = o.getD .null := by
  cases o with
  | none => rfl
  | some v => cases v <;> rfl

namespace GatewayRoute

theorem holds_requestId : (shape : Record Json GatewayRoute).Holds "requestContext"
    (soleText "RequestContext" "requestId").decode requestId :=
  Record.holds_of_write rfl rfl (fun _ _ => rfl) (by simp [shape])

theorem holds_routeKey :
    (shape : Record Json GatewayRoute).Holds "routeKey" Decode.string routeKey :=
  Record.holds_of_write rfl rfl (fun _ _ => rfl) (by simp [shape])

theorem holds_query :
    (shape : Record Json GatewayRoute).Holds "queryStringParameters" parameters query :=
  Record.holds_of_write rfl rfl (fun _ _ => rfl) (by simp [shape])

theorem holds_path :
    (shape : Record Json GatewayRoute).Holds "pathParameters" parameters path :=
  Record.holds_of_write rfl rfl (fun _ _ => rfl) (by simp [shape])

end GatewayRoute

namespace GatewayCall

theorem holds_requestId : (shape : Record Json GatewayCall).Holds "requestContext"
    (soleText "RequestContext" "requestId").decode requestId :=
  Record.holds_of_write rfl rfl (fun _ _ => rfl) (by simp [shape])

theorem holds_method :
    (shape : Record Json GatewayCall).Holds "httpMethod" Decode.string method :=
  Record.holds_of_write rfl rfl (fun _ _ => rfl) (by simp [shape])

theorem holds_resource :
    (shape : Record Json GatewayCall).Holds "resource" (Decode.optional Decode.string) resource :=
  Record.holds_of_write rfl rfl (fun _ _ => rfl) (by simp [shape])

/-- The pattern of a call in the first format names the method and the resource of the event; a
resource that is missing is null. -/
theorem routes {fields : Fields Json} {call : GatewayCall}
    (decoded : shape.decode (Json.object fields) = .ok call) :
    ∃ method, Fields.find? "httpMethod" fields = some method ∧
      (ItemKind.gatewayPattern call.method call.resource call.query call.path).Routes method
        ((Fields.find? "resource" fields).getD .null) := by
  obtain ⟨v, found, read⟩ := holds_method.get?_of_needed rfl (by simp) decoded
  cases Decode.string_eq_ok_iff.mp read
  have resource := holds_resource.map_of_optional rfl Decode.string_eq_ok_iff.mp decoded
  refine ⟨_, found, ?_⟩
  rw [← Json.getD_filter_not_isNull, ← resource]
  exact ItemKind.routes_gatewayPattern ..

/-- An event that can be read in the second format can be read in the first one if it names a method
and a resource, or no resource at all. -/
theorem exists_decode {fields : Fields Json} (sorted : fields.Sorted) {call : GatewayRoute}
    (other : GatewayRoute.shape.decode (Json.object fields) = .ok call) {method : String}
    (named : Fields.find? "httpMethod" fields = some (.string method)) {resource : Option String}
    (given : (Fields.find? "resource" fields).getD .null = (resource.map Json.string).getD .null) :
    ∃ call : GatewayCall, shape.decode (Json.object fields) = .ok call := by
  apply Record.exists_decode sorted
  intro f listed
  simp only [shape, List.mem_cons, List.not_mem_nil, or_false] at listed
  rcases listed with rfl | rfl | rfl | rfl | rfl
  · obtain ⟨v, found, read⟩ := GatewayRoute.holds_requestId.get?_of_needed rfl (by simp) other
    exact Field.fits_required found read
  · exact Field.fits_required named (Decode.string_string method)
  · apply Field.fits_defaulted
    intro v found
    simp only [Field.name_defaulted] at found
    rw [found, Option.getD_some] at given
    subst given
    cases resource with
    | none => exact ⟨none, rfl⟩
    | some name => exact ⟨some name, rfl⟩
  · exact Field.fits_defaulted fun v found =>
      ⟨call.query, (GatewayRoute.holds_query.of_decode other).1 v found⟩
  · exact Field.fits_defaulted fun v found =>
      ⟨call.path, (GatewayRoute.holds_path.of_decode other).1 v found⟩

end GatewayCall

namespace ItemKind

variable {context : Context} {fresh : String} {item : Json} {q : Request}

/-- A call with the name of the method is read in the first format. -/
theorem gateway_call_reads (named : (item.get? "httpMethod").isSome = true) :
    gateway.request context fresh item = read "apigateway" GatewayCall.shape item >>= fun call =>
      .ok ⟨call.requestId, gatewayPattern call.method call.resource call.query call.path, item,
        context⟩ := by
  simp only [request, readGateway, if_pos named]
  cases read "apigateway" GatewayCall.shape item <;> rfl

/-- A call with a route key and without the name of the method is read in the second format. -/
theorem gateway_route_reads (unnamed : (item.get? "httpMethod").isSome = false)
    (keyed : (item.get? "routeKey").isSome = true) :
    gateway.request context fresh item = read "apigateway" GatewayRoute.shape item >>= fun call =>
      .ok ⟨call.requestId, gatewayPattern call.route.1 call.route.2 call.query call.path, item,
        context⟩ := by
  simp only [request, readGateway, unnamed, Bool.false_eq_true, if_false, if_pos keyed]
  cases read "apigateway" GatewayRoute.shape item <;> rfl

theorem gateway_call_iff (named : (item.get? "httpMethod").isSome = true) :
    gateway.request context fresh item = .ok q ↔
      ∃ call, GatewayCall.shape.decode item = .ok call ∧
        ⟨call.requestId, gatewayPattern call.method call.resource call.query call.path, item,
          context⟩ = q := by
  simp only [gateway_call_reads named, bind_eq_ok_iff, read_eq_ok_iff, Except.ok.injEq]

theorem gateway_route_iff (unnamed : (item.get? "httpMethod").isSome = false)
    (keyed : (item.get? "routeKey").isSome = true) :
    gateway.request context fresh item = .ok q ↔
      ∃ call, GatewayRoute.shape.decode item = .ok call ∧
        ⟨call.requestId, gatewayPattern call.route.1 call.route.2 call.query call.path, item,
          context⟩ = q := by
  simp only [gateway_route_reads unnamed keyed, bind_eq_ok_iff, read_eq_ok_iff, Except.ok.injEq]

/-- The pattern of a call with the name of the method names the method and the resource of the
event; a resource that is missing is null. -/
theorem routes_of_gateway_call (named : (item.get? "httpMethod").isSome = true)
    (made : gateway.request context fresh item = .ok q) :
    ∃ method, item.get? "httpMethod" = some method ∧
      q.pattern.Routes method ((item.get? "resource").getD .null) := by
  obtain ⟨call, decoded, rfl⟩ := (gateway_call_iff named).mp made
  obtain ⟨fields, rfl⟩ := Json.exists_fields_of_isSome named
  exact GatewayCall.routes decoded

/-- The pattern of a call without the name of the method names the parts of the route key. -/
theorem gateway_route_made (unnamed : (item.get? "httpMethod").isSome = false)
    (keyed : (item.get? "routeKey").isSome = true) {call : GatewayRoute}
    (decoded : GatewayRoute.shape.decode item = .ok call) {method : String}
    {resource : Option String} (splits : GatewayRoute.Splits call.routeKey method resource) :
    ∃ q, gateway.request context fresh item = .ok q ∧
      q.pattern.Routes (.string method) ((resource.map Json.string).getD .null) := by
  refine ⟨_, (gateway_route_iff unnamed keyed).mpr ⟨call, decoded, rfl⟩, ?_⟩
  rw [GatewayRoute.route_of_splits splits]
  exact routes_gatewayPattern ..

end ItemKind

/-! ### The format of an event -/

namespace Trigger

variable {event : Json}

/-- A source that a record names is that of a batch. -/
theorem isBatch_of_ofRecord? {record : Json} {t : Trigger} (source : ofRecord? record = some t) :
    t.isBatch = true := by
  unfold ofRecord? at source
  split at source
  · cases source
    rfl
  · split at source <;> cases source <;> rfl

/-- The records of an event do not tell it to be a single event of a known kind. -/
theorem ofRecords?_getD_ne {t : Trigger} (single : t.isBatch = false) (known : t ≠ .custom)
    (records : List Json) : (ofRecords? records).getD .custom ≠ t := by
  cases source : ofRecords? records with
  | none => exact known.symm
  | some u =>
      intro same
      obtain ⟨nonempty, every⟩ := ofRecords?_eq_some_iff.mp source
      obtain ⟨record, rest, rfl⟩ := List.exists_cons_of_ne_nil nonempty
      have batch := isBatch_of_ofRecord? (every record List.mem_cons_self)
      rw [show u = t from same, single] at batch
      cases batch

/-- An event of the first format has the name of the method. -/
theorem isSome_method_of_detect (kind : detect event = .apiGatewayV1) :
    (event.get? "httpMethod").isSome = true := by
  rcases detect_cases event with ⟨_, names⟩ | ⟨other, _⟩ | ⟨other, _⟩ | records
  · exact names "httpMethod" (by simp)
  · cases other.symm.trans kind
  · cases other.symm.trans kind
  · exact absurd (records.symm.trans kind) (ofRecords?_getD_ne rfl (by decide) _)

/-- An event of the second format has a route key. -/
theorem isSome_routeKey_of_detect (kind : detect event = .apiGatewayV2) :
    (event.get? "routeKey").isSome = true := by
  rcases detect_cases event with ⟨other, _⟩ | ⟨_, names⟩ | ⟨other, _⟩ | records
  · cases other.symm.trans kind
  · exact names "routeKey" (by simp)
  · cases other.symm.trans kind
  · exact absurd (records.symm.trans kind) (ofRecords?_getD_ne rfl (by decide) _)

end Trigger

namespace MapperSettings

variable {settings : MapperSettings} {fresh : Nat → String} {context : Context} {event : Json}

/-- An event that is a call is accepted if its request can be made. -/
theorem map_gateway_iff (call : Trigger.detect event = .apiGatewayV1 ∨
    Trigger.detect event = .apiGatewayV2) {mapped : MappedEvent} :
    settings.map fresh context event = .ok mapped ↔
      ∃ q, ItemKind.gateway.request context (fresh 0) event = .ok q ∧
        ⟨Trigger.detect event, [q], .singleReply⟩ = mapped := by
  unfold map
  rcases call with kind | kind <;>
  · simp only [kind, mapSingle, ItemKind.requests]
    cases ItemKind.gateway.request context (fresh 0) event <;>
      simp [bind, Except.bind, pure, Except.pure, Except.map]

/-- An event of the first format that is accepted becomes a request whose pattern names the method
and the resource of the event. An event that is detected as of the second format and can be read in
it becomes a request whose pattern names the parts of its route key, unless it has the name of the
method as well: then it is read in the first format, so that it is accepted with such a pattern only
if its method and its resource are those parts. -/
theorem formats_agree_but_for_overlap (wellFormed : event.WellFormed) (settings : MapperSettings)
    (fresh : Nat → String) (context : Context) :
    (Trigger.detect event = .apiGatewayV1 →
      ∀ mapped, settings.map fresh context event = .ok mapped →
        ∃ q method, mapped.requests = [q] ∧ event.get? "httpMethod" = some method ∧
          q.pattern.Routes method ((event.get? "resource").getD .null)) ∧
    (Trigger.detect event = .apiGatewayV2 →
      ∀ call : GatewayRoute, GatewayRoute.shape.decode event = .ok call →
        ∃ key method resource, event.get? "routeKey" = some (.string key) ∧
          GatewayRoute.Splits key method resource ∧
          ((∃ mapped q, settings.map fresh context event = .ok mapped ∧ mapped.requests = [q] ∧
              q.pattern.Routes (.string method) ((resource.map Json.string).getD .null)) ↔
            event.get? "httpMethod" = none ∨
              event.get? "httpMethod" = some (.string method) ∧
                (event.get? "resource").getD .null = (resource.map Json.string).getD .null)) := by
  constructor
  · intro kind mapped accepted
    obtain ⟨q, made, rfl⟩ := (map_gateway_iff (Or.inl kind)).mp accepted
    obtain ⟨method, found, routes⟩ :=
      ItemKind.routes_of_gateway_call (Trigger.isSome_method_of_detect kind) made
    exact ⟨q, method, rfl, found, routes⟩
  · intro kind call decoded
    have keyed := Trigger.isSome_routeKey_of_detect kind
    obtain ⟨fields, rfl⟩ := Json.exists_fields_of_isSome keyed
    obtain ⟨v, found, read⟩ := GatewayRoute.holds_routeKey.get?_of_needed rfl (by simp) decoded
    cases Decode.string_eq_ok_iff.mp read
    obtain ⟨method, resource, splits⟩ := GatewayRoute.exists_splits call.routeKey
    refine ⟨call.routeKey, method, resource, found, splits, ?_⟩
    constructor
    · rintro ⟨mapped, q, accepted, own, routes⟩
      obtain ⟨q, made, rfl⟩ := (map_gateway_iff (Or.inr kind)).mp accepted
      cases own
      cases name : (Json.object fields).get? "httpMethod" with
      | none => exact Or.inl rfl
      | some given =>
          obtain ⟨_, again, other⟩ := ItemKind.routes_of_gateway_call (by rw [name]; rfl) made
          obtain ⟨rfl, same⟩ := other.unique routes
          exact Or.inr ⟨name.symm.trans again, same⟩
    · intro agrees
      have accepted : ∃ q, ItemKind.gateway.request context (fresh 0) (.object fields) = .ok q ∧
          q.pattern.Routes (.string method) ((resource.map Json.string).getD .null) := by
        rcases agrees with unnamed | ⟨named, given⟩
        · exact ItemKind.gateway_route_made (by rw [unnamed]; rfl) keyed decoded splits
        · obtain ⟨first, read⟩ := GatewayCall.exists_decode wellFormed.1 decoded named given
          have present : ((Json.object fields).get? "httpMethod").isSome = true := by
            rw [named]
            rfl
          have made : ItemKind.gateway.request context (fresh 0) (.object fields) = .ok _ :=
            (ItemKind.gateway_call_iff present).mpr ⟨first, read, rfl⟩
          refine ⟨_, made, ?_⟩
          obtain ⟨_, again, routes⟩ := ItemKind.routes_of_gateway_call present made
          rw [named] at again
          cases again
          rwa [given] at routes
      obtain ⟨q, made, routes⟩ := accepted
      exact ⟨_, q, (map_gateway_iff (Or.inr kind)).mpr ⟨q, made, rfl⟩, rfl, routes⟩

/-- An event of the second format that has a method and a resource beside its route key. -/
def bothFormats (method : String) (resource : Json) : Json := .object [
  ("httpMethod", .string method),
  ("isBase64Encoded", .bool false),
  ("rawPath", .string "/books"),
  ("requestContext", .object [("requestId", .string "r")]),
  ("resource", resource),
  ("routeKey", .string "POST /books")]

/-- Where the method and the resource are the parts of the route key, the event becomes a request
for its route. -/
theorem both_formats_agree :
    (bothFormats "POST" (.string "/books")).WellFormed ∧
    ∃ mapped q, MapperSettings.map {} (fun _ => "") {} (bothFormats "POST" (.string "/books"))
        = .ok mapped ∧
      mapped.requests = [q] ∧ q.pattern.Routes (.string "POST") (.string "/books") := by
  have wellFormed : (bothFormats "POST" (.string "/books")).WellFormed := by
    have inner : Fields.Sorted [("requestId", Json.string "r")] := List.pairwise_singleton _ _
    constructor
    · unfold Fields.Sorted
      decide
    · simp only [Json.WellFormedFields, Json.WellFormed, inner, and_self]
  refine ⟨wellFormed, ?_⟩
  have kind : Trigger.detect (bothFormats "POST" (.string "/books")) = .apiGatewayV2 := by rfl
  have decoded : GatewayRoute.shape.decode (bothFormats "POST" (.string "/books"))
      = .ok ⟨"r", "POST /books", none, none⟩ := rfl
  obtain ⟨-, second⟩ := formats_agree_but_for_overlap wellFormed {} (fun _ => "") {}
  obtain ⟨key, method, resource, keyed, splits, routed⟩ := second kind _ decoded
  cases keyed
  have parts := GatewayRoute.route_of_splits (r := ⟨"r", "POST /books", none, none⟩) splits
  cases parts
  exact routed.mpr (Or.inr ⟨rfl, rfl⟩)

/-- An event that is detected as of the second format and can be read in it does not become a
request for its route, since it has another method. -/
theorem route_key_passed_over :
    Trigger.detect (bothFormats "GET" .null) = .apiGatewayV2 ∧
    (∃ call, GatewayRoute.shape.decode (bothFormats "GET" .null) = .ok call) ∧
    (bothFormats "GET" .null).get? "routeKey" = some (.string "POST /books") ∧
    GatewayRoute.Splits "POST /books" "POST" (some "/books") ∧
    ¬ ∃ mapped q, MapperSettings.map {} (fun _ => "") {} (bothFormats "GET" .null) = .ok mapped ∧
      mapped.requests = [q] ∧ q.pattern.Routes (.string "POST") (.string "/books") := by
  have kind : Trigger.detect (bothFormats "GET" .null) = .apiGatewayV2 := by rfl
  refine ⟨kind, ⟨_, rfl⟩, rfl, .both (by decide) (by decide), ?_⟩
  rintro ⟨mapped, q, accepted, own, routes⟩
  obtain ⟨q, made, rfl⟩ := (map_gateway_iff (Or.inr kind)).mp accepted
  cases own
  obtain ⟨method, found, other⟩ := ItemKind.routes_of_gateway_call (by rfl) made
  cases found
  have same : Json.string "GET" = .string "POST" := (other.unique routes).1
  simp at same

end MapperSettings
end EventDispatch
