import EventDispatch.Proofs.Service.Conduct
import EventDispatch.Proofs.Service.AnswerSources
import EventDispatch.Proofs.Service.Substitution
/-!
Internal failures stay undisclosed.

Purpose: two runs differ only in what internal failures of handlers are: in the message of an error
from elsewhere, of a reply that cannot be written or of a crash, or in which of these it is. Then an
event comes to the same in both, at every moment and under every schedule. What it comes to tells of
an internal failure nothing but that it is one, while refusals are told in full.

What carries the proof: an exchange uses its registries only to handle requests, and registries that
are muted handle them as before. Both runs are the same as one run with muted registries.

Main exports: `Scene.Act.Alike`, `Caller.Turn.Alike`, `Dispatch.Told`, `Dispatch.told_of_sourced`,
`MapperSettings.internal_failures_undisclosed`.
-/

namespace EventDispatch

/-! ### Runs that differ in internal failures only -/

/-- Two acts that are the same, or add servers whose handlers do the same up to what internal
failures are. -/
inductive Scene.Act.Alike : Act → Act → Prop where
  | same (a : Act) : Alike a a
  | serve (g : Registry) {deeds others : Registration → Request → Conduct}
      (alike : ∀ r request, (deeds r request).Alike (others r request)) :
      Alike (.serve (g.conducted deeds)) (.serve (g.conducted others))

/-- Two turns that are the same, or acts of which this holds. -/
inductive Caller.Turn.Alike : Turn → Turn → Prop where
  | same (t : Turn) : Alike t t
  | act {a b : Scene.Act} (alike : a.Alike b) : Alike (.act a) (.act b)

theorem Scene.Act.Alike.muted {a b : Act} (alike : a.Alike b) :
    a.withRegistries Registry.muted = b.withRegistries Registry.muted := by
  cases alike with
  | same => rfl
  | serve g alike => exact congrArg Act.serve (Registry.muted_conducted alike)

theorem Caller.Turn.Alike.muted {t u : Turn} (alike : t.Alike u) :
    t.withRegistries Registry.muted = u.withRegistries Registry.muted := by
  cases alike with
  | same => rfl
  | act alike => exact congrArg Turn.act alike.muted

/-- Alike acts lead to scenes that are not told apart once their registries are muted. -/
theorem Scene.of_alike {acts others : List Act} (alike : List.Forall₂ Act.Alike acts others) :
    (of acts).withRegistries Registry.muted = (of others).withRegistries Registry.muted := by
  have muted : acts.map (Act.withRegistries Registry.muted)
      = others.map (Act.withRegistries Registry.muted) := by
    induction alike with
    | nil => rfl
    | cons first _ inductionHypothesis =>
        rw [List.map_cons, List.map_cons, first.muted, inductionHypothesis]
  rw [← of_withRegistries Registry.handle_muted, ← of_withRegistries Registry.handle_muted, muted]

/-! ### What an event's result tells -/

/-- What an event comes to is told by the broker and by registries of some sort. Each outcome is a
failure of the broker, or what one of these registries tells the sender of one of the requests, with
the id of the request that it settles. -/
def Dispatch.Told (d : Dispatch) (served : Registry → Prop)
    (result : Except DispatchError Acknowledgement) : Prop :=
  ∃ settled : List Settled,
    settled.map Settled.request = d.pursuits.map Pursuit.request ∧
    result = (d.responder.acknowledge settled).mapError .correlation ∧
    ∀ s ∈ settled, (∃ error, s.outcome = .error ⟨s.request.id, .broker error⟩) ∨
      ∃ g q, served g ∧ q ∈ d.pursuits.map Pursuit.request ∧ q.id = s.request.id ∧
        ∀ (base : Registry) deeds, base.conducted deeds = g → base.Tells deeds q s.outcome

/-- Outcomes that stem from the requests are told by the registries that are served. -/
theorem Dispatch.told_of_sourced {d : Dispatch} {served : Registry → Prop} {e : Caller}
    (sourced : e.Sourced served (d.pursuits.map Pursuit.request))
    {result : Except DispatchError Acknowledgement}
    (found : { d with pursuits := e.pursuits }.result? = some result) : d.Told served result := by
  obtain ⟨settled, there, comes⟩ := result?_eq_some_iff.mp found
  obtain ⟨requests, outcomes⟩ := sourced.results there
  refine ⟨settled, requests, comes.symm, ?_⟩
  intro s member
  rcases outcomes s member with failed | ⟨response, outcome, g, q, provided, own, id, answers⟩
  · exact Or.inl failed
  · refine Or.inr ⟨g, q, provided, own, id, ?_⟩
    rintro base deeds rfl
    rw [outcome]
    exact Registry.tells_of_answers answers

namespace Caller.Sourced

variable {e : Caller} {served : Registry → Prop} {wanted : List Request}

/-- Turns of the exchange alone use nobody's ids. -/
theorem through (sourced : e.Sourced served wanted) (turns : List EventDispatch.Turn) :
    (e.through turns).Sourced served wanted := by
  induction turns generalizing e with
  | nil => exact sourced
  | cons t turns inductionHypothesis =>
      rw [through_cons]
      apply inductionHypothesis
      cases t with
      | move m => exact sourced.turn trivial (by rintro g ⟨⟩)
      | look i => exact sourced.look i

end Caller.Sourced

namespace MapperSettings

variable {settings : MapperSettings} {fresh : Nat → String} {context : Context} {event : Json}
  {d : Dispatch} {acts : List Scene.Act}

/-- An event that is processed at once is told by the registries of the scene. -/
theorem told_of_process (dispatched : settings.dispatch fresh context event = .ok d)
    (free : ∀ q ∈ d.pursuits.map Pursuit.request, ¬ (Scene.of acts).InFlight q.id)
    {result : Except DispatchError Acknowledgement}
    (found : ((Scene.of acts).exchange.process settings fresh context event).2 = some result) :
    d.Told (fun g => .serve g ∈ acts) result := by
  have start := Caller.sourced_start (Scene.sound_of acts) (Scene.provided_of acts) free
  obtain ⟨sent, rested, moves, rfl, rfl, _, _, final⟩ :=
    Caller.sendAll_eq_through (Scene.of acts) (d.pursuits.map Pursuit.request)
  unfold Exchange.sendAll at final
  rw [← pursuits_of_dispatch dispatched] at final
  unfold Exchange.process at found
  rw [dispatched] at found
  simp only at found final
  rw [final] at found
  exact Dispatch.told_of_sourced (((start.through _).through _).through _) found

/-- An event under way is told by the registries of the scene and of the schedule. -/
theorem told_of_resultAfter (dispatched : settings.dispatch fresh context event = .ok d)
    (free : ∀ q ∈ d.pursuits.map Pursuit.request, ¬ (Scene.of acts).InFlight q.id)
    {schedule : Nat → Caller.Turn}
    (spares : ∀ k, (schedule k).Spares ((d.pursuits.map Pursuit.request).map Request.id)) {k : Nat}
    {result : Except DispatchError Acknowledgement}
    (found : d.resultAfter (Scene.of acts) schedule k = some result) :
    d.Told (fun g => .serve g ∈ acts ∨ ∃ l, schedule l = .act (.serve g)) result := by
  have provided := Scene.provided_of acts
  have among : (Scene.of acts).exchange.Provided
      fun g => .serve g ∈ acts ∨ ∃ l, schedule l = .act (.serve g) :=
    ⟨fun server member => Or.inl (provided.servers server member),
      fun job member => Or.inl (provided.jobs job member)⟩
  have start := Caller.sourced_start (Scene.sound_of acts) among free
  have after := start.after spares (fun l g serves => Or.inr ⟨l, serves⟩) k
  unfold Caller.start at after
  rw [← pursuits_of_dispatch dispatched] at after
  exact Dispatch.told_of_sourced after found

/-- Internal failures are not disclosed. Whatever the handlers of a registry do is a conduct, also
where they are made of functions or of services. In two scenes, and under two schedules, the
handlers of all servers do the same, up to what internal failures are. Then an event comes to the
same when it is processed at once, and it comes to the same at every moment when it is under way. If
the ids of its requests are not in use, and nobody else uses them, what it comes to is told by the
broker and by the registries that are served, which tell of an internal failure that it is one and
of a refusal all that it says. -/
theorem internal_failures_undisclosed (settings : MapperSettings) (fresh : Nat → String)
    (context : Context) (event : Json) {acts others : List Scene.Act}
    (alike : List.Forall₂ Scene.Act.Alike acts others) {schedule second : Nat → Caller.Turn}
    (along : ∀ k, (schedule k).Alike (second k)) :
    ((∀ g : Registry, ∃ deeds, g.conducted deeds = g) ∧
      (∀ f, Handler.ofFunction f = fun request => (Conduct.function (f request)).run) ∧
      ∀ service, Handler.ofService service
        = fun request => (Conduct.service (service request)).run) ∧
    ((Scene.of acts).exchange.process settings fresh context event).2
      = ((Scene.of others).exchange.process settings fresh context event).2 ∧
    ∀ d, settings.dispatch fresh context event = .ok d →
      (∀ k, d.resultAfter (Scene.of acts) schedule k
        = d.resultAfter (Scene.of others) second k) ∧
      ((∀ q ∈ d.pursuits.map Pursuit.request, ¬ (Scene.of acts).InFlight q.id) →
        (∀ result,
          ((Scene.of acts).exchange.process settings fresh context event).2 = some result →
          d.Told (fun g => .serve g ∈ acts) result) ∧
        ((∀ k, (schedule k).Spares ((d.pursuits.map Pursuit.request).map Request.id)) →
          ∀ k result, d.resultAfter (Scene.of acts) schedule k = some result →
            d.Told (fun g => .serve g ∈ acts ∨ ∃ l, schedule l = .act (.serve g)) result)) := by
  have muted := Scene.of_alike alike
  have scheduled : (fun k => (schedule k).withRegistries Registry.muted)
      = fun k => (second k).withRegistries Registry.muted := funext fun k => (along k).muted
  refine ⟨⟨Registry.exists_conducted, Handler.ofFunction_eq, Handler.ofService_eq⟩, ?_, ?_⟩
  · have exchanges : (Scene.of acts).exchange.withRegistries Registry.muted
        = (Scene.of others).exchange.withRegistries Registry.muted := congrArg Scene.exchange muted
    have first := Exchange.process_withRegistries (x := (Scene.of acts).exchange)
      Registry.handle_muted settings fresh context event
    rw [exchanges, Exchange.process_withRegistries Registry.handle_muted] at first
    exact (congrArg Prod.snd first).symm
  · intro d dispatched
    refine ⟨?_, fun free => ⟨fun result => told_of_process dispatched free,
      fun spares k result => told_of_resultAfter dispatched free spares⟩⟩
    intro k
    calc d.resultAfter (Scene.of acts) schedule k
        = d.resultAfter ((Scene.of acts).withRegistries Registry.muted)
            (fun l => (schedule l).withRegistries Registry.muted) k :=
          (d.resultAfter_withRegistries Registry.handle_muted _ _ k).symm
      _ = d.resultAfter ((Scene.of others).withRegistries Registry.muted)
            (fun l => (second l).withRegistries Registry.muted) k := by rw [muted, scheduled]
      _ = d.resultAfter (Scene.of others) second k :=
          d.resultAfter_withRegistries Registry.handle_muted _ _ k

/-- A request that a custom event becomes. -/
def customRequest : Request := { id := "1", pattern := .string "/", data := .bool true }

/-- A custom event under way. -/
def customDispatch : Dispatch := ⟨.singleReply, [{ request := customRequest }]⟩

/-- A custom event whose request failed internally. -/
def undisclosed : Except DispatchError Acknowledgement :=
  .error (.correlation ⟨"1", .remote ⟨.internal, "Internal server error", none⟩⟩)

theorem dispatch_custom :
    dispatch {} (fun _ => "1") {} (.bool true) = .ok customDispatch := rfl

/-- The request is sent, taken, handled and read: then the event has come to its end. -/
theorem resultAfter_inTurn {g : Registry}
    (handled : g.handle customRequest = .answered (.failure "1" .internal)) :
    customDispatch.resultAfter (Scene.of [.serve g, .listen 0]) Caller.inTurn 4
      = some undisclosed := by
  have received : (customDispatch.caller (Scene.of [.serve g, .listen 0])).after Caller.inTurn 2
      = ⟨⟨⟨{
        consumer := some 0
        pending := [("1", 0)]
        requests := [{}]
        responses := [{}] },
      [{ registry := g, loop := some { channel := 0 } }], [⟨g, customRequest⟩]⟩, []⟩,
      [⟨customRequest, .waiting ⟨⟨"1", .following 0⟩, .null⟩⟩]⟩ := rfl
  have finished : (customDispatch.caller (Scene.of [.serve g, .listen 0])).after Caller.inTurn 3
      = ⟨⟨⟨{
        consumer := some 0
        requests := [{}]
        responses := [{ buffer := [.failure "1" .internal] }] },
      [{ registry := g, loop := some { channel := 0 } }], []⟩, []⟩,
      [⟨customRequest, .waiting ⟨⟨"1", .following 0⟩, .null⟩⟩]⟩ := by
    rw [Caller.after_succ, received]
    simp only [Caller.inTurn, Caller.turn, Scene.next, Exchange.move, List.getElem?_cons_zero,
      Option.bind_eq_bind, Option.bind_some, handled]
    rfl
  unfold Dispatch.resultAfter
  rw [Caller.after_succ, finished]
  rfl

/-- A crash in one run, and an error from elsewhere under layers in the other: both come to the same
error, which has nothing of the messages. -/
theorem crash_and_error_undisclosed : ∃ base,
    Registry.empty.register (.string "/") (fun _ => .endless) .message {} = .ok base ∧
    let crashing := base.conducted fun _ _ => .crashes "disk full"
    let failing := base.conducted fun _ _ =>
      .function (.ok (.present (.error (.elsewhere "no such user"))))
    ((Scene.of [.serve crashing, .listen 0]).exchange.process {} (fun _ => "1") {} (.bool true)).2
      = some undisclosed ∧
    ((Scene.of [.serve failing, .listen 0]).exchange.process {} (fun _ => "1") {} (.bool true)).2
      = some undisclosed ∧
    customDispatch.resultAfter (Scene.of [.serve failing, .listen 0]) Caller.inTurn 4
      = some undisclosed ∧
    customDispatch.Told (fun g => .serve g ∈ [Scene.Act.serve crashing, .listen 0]) undisclosed ∧
    customDispatch.Told (fun g => .serve g ∈ [Scene.Act.serve crashing, .listen 0] ∨
      ∃ l, Caller.inTurn l = .act (.serve g)) undisclosed := by
  obtain ⟨base, registered⟩ := Registry.exists_register (Registry.contains_empty (.string "/"))
    (fun _ => .endless) .message {}
  refine ⟨base, registered, ?_⟩
  intro crashing failing
  have handled : crashing.handle customRequest = .answered (.failure "1" .internal) := by
    have taken : base.resolve customRequest.pattern = _ := Registry.resolve_of_register registered
    simp only [crashing, Registry.conducted, Registry.handle_withHandlers, taken]
    rfl
  have settling : ∀ r ∈ crashing.toList, r.handler.Settles := by
    intro r member
    simp only [crashing, Registry.conducted, Registry.withHandlers, Registry.toList,
      Array.toList_map, List.mem_map] at member
    obtain ⟨_, _, rfl⟩ := member
    intro request
    simp [Conduct.run, Registration.withHandler]
  have matching : ∀ q ∈ [customRequest], ¬ crashing.CrashesOnMatch q := by
    intro q member crashes
    rw [List.mem_singleton.mp member] at crashes
    rw [Registry.handle_of_crashesOnMatch crashes] at handled
    cases handled
  have free : ∀ q ∈ customDispatch.pursuits.map Pursuit.request,
      ¬ (Scene.of [.serve crashing, .listen 0]).InFlight q.id :=
    fun q _ => Scene.not_inFlight_of_listening crashing q.id
  have spares : ∀ k, (Caller.inTurn k).Spares
      ((customDispatch.pursuits.map Pursuit.request).map Request.id) := by
    rintro (_ | _ | _ | k) <;> trivial
  have alike : List.Forall₂ Scene.Act.Alike [.serve crashing, .listen 0]
      [.serve failing, .listen 0] :=
    .cons (.serve base fun _ _ => Or.inr ⟨.crashed _,
      .failed (.function (.present (.error _))) (.elsewhere _)⟩) (.cons (.same _) .nil)
  have along : ∀ k, (Caller.inTurn k).Alike (Caller.inTurn k) := fun k => .same _
  obtain ⟨_, same, moments⟩ :=
    internal_failures_undisclosed {} (fun _ => "1") {} (.bool true) alike along
  obtain ⟨results, told⟩ := moments customDispatch dispatch_custom
  obtain ⟨toldAtOnce, toldLater⟩ := told free
  have processed : ((Scene.of [.serve crashing, .listen 0]).exchange.process {} (fun _ => "1") {}
      (.bool true)).2 = some undisclosed := by
    obtain ⟨results, acknowledged, length, entries⟩ := Exchange.process_right (n := 0)
      dispatch_custom (Scene.sound_of [.serve crashing, .listen 0])
      ⟨0, ⟨_, _, rfl, rfl, rfl, rfl⟩, rfl⟩ (Registry.settles_of_handlers settling matching)
      (fun q _ => Scene.not_inFlight_of_listening crashing q.id)
    obtain ⟨outcome, there, right⟩ := entries 0 customRequest rfl
    have own := (Registry.handle_eq_answered_iff.mp handled).outcome.symm.trans
      (right.outcome_eq (by simp) rfl)
    obtain ⟨s, rfl⟩ := List.length_eq_one_iff.mp length
    cases there
    rw [acknowledged, ← Option.some.inj own]
    rfl
  have last := resultAfter_inTurn handled
  refine ⟨processed, same ▸ processed, ?_, toldAtOnce _ processed, toldLater spares 4 _ last⟩
  rw [← results 4]
  exact last

end MapperSettings
end EventDispatch
