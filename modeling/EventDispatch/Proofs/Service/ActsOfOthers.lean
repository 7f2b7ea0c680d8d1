import EventDispatch.Proofs.Service.CallerInvariant
/-!
Acts while a caller is under way.

Purpose: whatever the scene does next, what holds of a caller at every moment goes on to hold, as
long as the consumer stays the same and nobody else uses the ids of the requests.

Main exports: `Broker.Action.Spares`, `Caller.Turn.Spares`, `Caller.Invariant.wanted_of_job`,
`Caller.Invariant.act`.
-/

namespace EventDispatch

open scoped List

/-- Someone uses the broker, but not with one of the ids. -/
def Broker.Action.Spares (ids : List String) : Broker.Action → Prop
  | .send r => r.id ∉ ids
  | .respond r => r.id ∉ ids
  | _ => True

namespace Caller

/-- A turn by which nobody else uses one of the ids. -/
def Turn.Spares (ids : List String) : Turn → Prop
  | .act (.use a) => a.Spares ids
  | _ => True

namespace Invariant

variable {e : Caller} {n c : Nat} {g : Registry} {wanted : List Request}

theorem serve (kept : e.Invariant n g c wanted) (registry : Registry) :
    (e.turn (.act (.serve registry))).Invariant n g c wanted :=
  kept.of_untouched kept.sound (kept.orderly.addServer registry)
    (kept.attending.addServer registry) kept.foreign (fun _ _ => ⟨rfl, rfl⟩)
    (fun _ _ => List.Perm.refl _)

/-- A job with another id ends, with or without a response. -/
theorem finish_other (kept : e.Invariant n g c wanted) {j : Nat} {job : Job}
    (found : e.scene.exchange.jobs[j]? = some job)
    (other : job.request.id ∉ wanted.map Request.id) {bus : Bus}
    (sound : Broker.Sound { e.broker with bus })
    (requests : bus.requests = e.scene.exchange.bus.requests)
    (consumer : bus.consumer = e.scene.exchange.bus.consumer)
    (same : ∀ {i : Nat} {p : Pursuit} {s : Stream}, e.pursuits[i]? = some p →
      p.stream? = some s → bus.serves s = e.scene.exchange.bus.serves s ∧
        bus.unread s = e.scene.exchange.bus.unread s) :
    Invariant ⟨{ e.scene with exchange := { e.scene.exchange with
      bus, jobs := e.scene.exchange.jobs.eraseIdx j } }, e.pursuits⟩ n g c wanted := by
  obtain ⟨attending, taken⟩ := kept.attending.finish found requests consumer
  refine kept.of_untouched sound (kept.orderly.of_jobs requests _) attending kept.foreign same ?_
  intro id concerned
  have differs : ¬ job.request.id = id := fun equal => other (equal ▸ concerned)
  simpa [differs] using taken id

/-- A job with an id of the list is for one of the requests, which is all that is under way for the
id. -/
theorem wanted_of_job (kept : e.Invariant n g c wanted) {job : Job}
    (member : job ∈ e.scene.exchange.jobs)
    (concerned : job.request.id ∈ wanted.map Request.id) :
    job.request ∈ wanted ∧ e.scene.exchange.underWay c job.request.id = [job.request] := by
  have busy : job.request ∈ e.scene.exchange.underWay c job.request.id :=
    Exchange.mem_underWay.mpr ⟨Or.inr ⟨job, member, rfl⟩, rfl⟩
  cases pending : e.scene.exchange.bus.pending.find? job.request.id with
  | none =>
      rw [kept.idle concerned pending] at busy
      exact absurd busy (by simp)
  | some d =>
      obtain ⟨i, p, s, place, waiting, idEq, served⟩ := kept.owner concerned pending
      have once := (kept.phase place).underWay_of_serves waiting served
      rw [← (kept.phase place).own_id waiting, idEq] at once
      rw [once] at busy
      rw [once, List.mem_singleton.mp busy, ← kept.requests]
      exact ⟨List.mem_map_of_mem (List.mem_of_getElem? place), rfl⟩

/-- Such a job comes to an answer, if the requests do. -/
theorem answers_of_job (kept : e.Invariant n g c wanted) (settles : g.Settles wanted) {job : Job}
    (member : job ∈ e.scene.exchange.jobs)
    (concerned : job.request.id ∈ wanted.map Request.id) :
    ∃ response, job.registry.handle job.request = .answered response ∧
      g.Answers job.request response := by
  obtain ⟨response, answers⟩ := settles job.request (kept.wanted_of_job member concerned).1
  rw [kept.attending.jobs job member concerned]
  exact ⟨response, Registry.handle_of_answers answers, answers⟩

/-- The answer of a request reaches the pursuit that was asked, and no other one. -/
theorem phase_of_answer (kept : e.Invariant n g c wanted) {request : Request} {response : Response}
    (once : e.scene.exchange.underWay c request.id = [request])
    (answers : g.Answers request response) {y : Exchange}
    (bus : y.bus = e.scene.exchange.bus.publishResponse response)
    (others : ∀ id, id ≠ request.id →
      (y.underWay c id).Perm (e.scene.exchange.underWay c id))
    {i : Nat} {p : Pursuit} (place : e.pursuits[i]? = some p) : Phase y g c wanted i p := by
  have phase := kept.phase place
  have serves : ∀ {s : Stream}, p.stream? = some s →
      y.bus.serves s = (e.scene.exchange.bus.serves s && !decide (s.id = response.id)) := by
    intro s waiting
    have law := kept.sound.serves_respond (kept.live place waiting).1 response
    rw [answers.terminal, Bool.and_true] at law
    rw [bus]
    exact law
  have unread : ∀ {s : Stream}, p.stream? = some s → y.bus.unread s
      = if e.scene.exchange.bus.serves s = true ∧ s.id = response.id
        then e.scene.exchange.bus.unread s ++ [response] else e.scene.exchange.bus.unread s := by
    intro s waiting
    rw [bus]
    exact kept.sound.unread_respond (kept.live place waiting).1 response
  by_cases same : p.request.id = request.id
  · cases phase with
    | unsent progress => exact .unsent progress
    | settled progress right => exact .settled progress right
    | answered progress own unserved arrived answer =>
        have waiting := stream?_eq_some_iff.mpr ⟨_, progress⟩
        refine .answered progress own ?_ ?_ answer
        · rw [serves waiting, unserved, Bool.false_and]
        · rw [unread waiting, unserved]
          simpa using arrived
    | asked progress own served nothing underWay =>
        have waiting := stream?_eq_some_iff.mpr ⟨_, progress⟩
        have reached := (own.trans same).trans answers.id.symm
        rw [same, once] at underWay
        have requests : request = p.request := by simpa using underWay
        refine .answered progress own ?_ ?_ (requests ▸ answers)
        · rw [serves waiting, reached]
          simp
        · rw [unread waiting, if_pos ⟨served, reached⟩, nothing]
          rfl
  · refine phase.of_same ?_ (fun _ => others _ same)
    intro s waiting
    have different : s.id ≠ response.id := by
      rw [phase.own_id waiting, answers.id]
      exact same
    exact ⟨by simp [serves waiting, different], by simp [unread waiting, different]⟩

/-- The job of a request of the list ends with its answer. -/
theorem finish_own (kept : e.Invariant n g c wanted) {j : Nat} {job : Job} {response : Response}
    (found : e.scene.exchange.jobs[j]? = some job)
    (concerned : job.request.id ∈ wanted.map Request.id)
    (answers : g.Answers job.request response) :
    Invariant ⟨{ e.scene with exchange := { e.scene.exchange with
      bus := e.scene.exchange.bus.publishResponse response
      jobs := e.scene.exchange.jobs.eraseIdx j } }, e.pursuits⟩ n g c wanted := by
  have once := (kept.wanted_of_job (List.mem_of_getElem? found) concerned).2
  obtain ⟨attending, taken⟩ := kept.attending.finish found
    (Bus.requests_publishResponse e.scene.exchange.bus response)
    (Bus.consumer_publishResponse e.scene.exchange.bus response)
  have gone := taken job.request.id
  rw [once] at gone
  simp only [beq_self_eq_true, List.filter_cons_of_pos, List.filter_nil, List.cons_append,
    List.nil_append, List.perm_singleton, List.cons.injEq, true_and] at gone
  have others : ∀ id, id ≠ job.request.id →
      (Exchange.underWay { e.scene.exchange with
        bus := e.scene.exchange.bus.publishResponse response
        jobs := e.scene.exchange.jobs.eraseIdx j } c id).Perm
        (e.scene.exchange.underWay c id) := by
    intro id differs
    have different : ¬ job.request.id = id := fun equal => differs equal.symm
    simpa [different] using taken id
  refine ⟨kept.sound.respond response, kept.orderly.of_jobs (Bus.requests_publishResponse _ _) _,
    attending, kept.requests, kept.foreign, ?_, kept.phase_of_answer once answers rfl others⟩
  intro id concernedId free
  by_cases same : id = job.request.id
  · rw [same]
    exact gone
  · have different : id ≠ response.id := fun equal => same (equal.trans answers.id)
    simp only [Bus.find?_publishResponse, different, false_and, if_false] at free
    have nothing := others id same
    rw [kept.idle concernedId free] at nothing
    exact nothing.eq_nil

theorem move (kept : e.Invariant n g c wanted) (settles : g.Settles wanted) (m : Move) :
    (e.turn (.act (.move m))).Invariant n g c wanted := by
  have step : e.turn (.act (.move m)) = ⟨{ e.scene with
      exchange := (e.scene.exchange.move m).getD e.scene.exchange }, e.pursuits⟩ := rfl
  rw [step]
  cases moved : e.scene.exchange.move m with
  | none => exact kept
  | some y =>
      have orderly := kept.orderly.move moved
      rcases Exchange.move_cases moved with
        ⟨k, server, loop, request, rfl, running, got, rfl⟩ |
        ⟨k, server, loop, rfl, running, reason, rfl⟩ |
        ⟨j, job, response, rfl, found, handled, rfl⟩ | ⟨j, job, rfl, found, handled, rfl⟩
      · obtain ⟨attending, underWay⟩ := kept.attending.receive kept.orderly running got
        exact kept.of_untouched (kept.sound.of_subscribers_eq rfl rfl) orderly attending
          kept.foreign (fun _ _ => ⟨rfl, rfl⟩) underWay
      · obtain ⟨places, other⟩ := kept.attending.not_stopping kept.orderly running reason
        obtain ⟨attending, underWay⟩ := kept.attending.endLoop places other server
        refine kept.of_untouched (kept.sound.of_subscribers_eq rfl rfl) orderly attending
          kept.foreign (fun _ _ => ⟨rfl, rfl⟩) ?_
        intro id _
        exact List.Perm.of_eq (underWay id)
      · have answers := Registry.handle_eq_answered_iff.mp handled
        by_cases concerned : job.request.id ∈ wanted.map Request.id
        · have own := kept.attending.jobs job (List.mem_of_getElem? found) concerned
          rw [own] at answers
          exact kept.finish_own found concerned answers
        · refine kept.finish_other found concerned (kept.sound.respond response)
            (Bus.requests_publishResponse _ _) (Bus.consumer_publishResponse _ _) ?_
          intro i p s place waiting
          obtain ⟨live, member⟩ := kept.live place waiting
          have different : response.id ≠ s.id := by
            rw [answers.id]
            exact fun same => concerned (same ▸ member)
          obtain ⟨_, unread, serves⟩ := kept.sound.untouched_act live (a := .respond response)
            (by simp) (by rintro _ ⟨⟩; exact different) (by simp) (by simp)
          exact ⟨serves, unread⟩
      · have other : job.request.id ∉ wanted.map Request.id := by
          intro concerned
          obtain ⟨response, answered, _⟩ :=
            kept.answers_of_job settles (List.mem_of_getElem? found) concerned
          rw [answered] at handled
          cases handled
        exact kept.finish_other found other kept.sound rfl rfl (fun _ _ => ⟨rfl, rfl⟩)

/-- The stream of a pursuit is left as it was by what someone else does at the broker. -/
theorem untouched_by_others (kept : e.Invariant n g c wanted) {a : Broker.Action}
    (close : a ≠ .close) (spares : a.Spares (wanted.map Request.id)) {i : Nat} {p : Pursuit} {s : Stream}
    (place : e.pursuits[i]? = some p) (waiting : p.stream? = some s) :
    Broker.Untouched e.broker
      (e.broker.act (a.shift (e.pursuits.map Pursuit.stream?).length)).1 i s := by
  obtain ⟨live, member⟩ := kept.live place waiting
  have inRange := lt_length_of_pursuit place
  refine kept.sound.untouched_act live ?_ ?_ ?_ ?_
  · cases a <;> simp [Broker.Action.shift] at close ⊢
  · intro r published same
    cases a with
    | respond other =>
        cases published
        exact spares (same ▸ member)
    | _ => cases published
  · cases a <;> simp [Broker.Action.shift] <;> omega
  · intro m t given there unfinished same
    cases a with
    | drop k =>
        cases given
        rcases stream?_cases there with ⟨q, beyond, _⟩ | ⟨_, other⟩
        · have below := lt_length_of_pursuit beyond
          simp only [List.length_map] at below
          omega
        · exact kept.foreign other unfinished (same ▸ member)
    | _ => cases given

/-- Someone else uses the broker. -/
theorem use (kept : e.Invariant n g c wanted) {a : Broker.Action}
    (spares : a.Spares (wanted.map Request.id))
    (stays : (e.scene.used a).exchange.bus.consumer = some c) :
    (e.turn (.act (.use a))).Invariant n g c wanted := by
  have step : e.turn (.act (.use a)) = ⟨e.scene.used a, e.pursuits⟩ := rfl
  rw [step]
  unfold Scene.used at stays ⊢
  split
  · exact kept
  · rename_i foreign
    rw [if_neg foreign] at stays
    have receiver : a.receiver? ≠ some c := by
      intro same
      rw [same] at foreign
      exact foreign kept.attending.owns
    obtain ⟨attach, close⟩ := Broker.not_replaced (b := e.scene.broker)
      (kept.attending.inRange kept.orderly) stays
    have send : ∀ r, a = .send r → r.id ∉ wanted.map Request.id := by rintro r rfl; exact spares
    obtain ⟨attending, underWay⟩ := kept.attending.used e.scene.others receiver attach close
      send
    have behind := Broker.act_shift e.scene.exchange.bus (e.pursuits.map Pursuit.stream?)
      e.scene.others a
    refine kept.of_untouched ?_ ?_ attending ?_ ?_ (fun id concerned =>
      List.Perm.of_eq (underWay id concerned))
    · have sound := kept.sound.act (a.shift (e.pursuits.map Pursuit.stream?).length)
      unfold broker at sound
      rw [behind] at sound
      exact sound
    · apply kept.orderly.of_bus
      intro d owned attended
      refine Broker.attended_act ?_ attended
      intro same
      rw [same] at foreign
      exact foreign owned
    · intro s member unfinished
      rcases Broker.unfinished_act member unfinished with
        ⟨t, there, going, same⟩ | ⟨r, sent, same⟩
      · rw [← same]
        exact kept.foreign there going
      · rw [same]
        exact send r sent
    · intro i p s place waiting
      obtain ⟨_, unread, serves⟩ := kept.untouched_by_others close spares place waiting
      unfold broker at unread serves
      rw [behind] at unread serves
      exact ⟨serves, unread⟩

theorem act (kept : e.Invariant n g c wanted) (settles : g.Settles wanted) {a : Scene.Act}
    (spares : (Turn.act a).Spares (wanted.map Request.id))
    (stays : (e.scene.next a).exchange.bus.consumer = some c) :
    (e.turn (.act a)).Invariant n g c wanted := by
  have step : e.turn (.act a) = ⟨e.scene.next a, e.pursuits⟩ := rfl
  cases a with
  | serve registry => exact kept.serve registry
  | listen k =>
      have same := Exchange.listen_same (kept.attending.inRange kept.orderly) stays
      rw [step]
      simp only [Scene.next, same]
      exact kept
  | close k =>
      have same := Exchange.closeServer_same stays
      rw [step]
      simp only [Scene.next, same]
      exact kept
  | move m => exact kept.move settles m
  | use a => exact kept.use spares stays

end Invariant
end Caller
end EventDispatch
