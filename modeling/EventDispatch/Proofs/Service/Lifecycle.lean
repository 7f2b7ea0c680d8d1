import EventDispatch.Proofs.Service.SessionScene
import Mathlib.Data.List.Induction
import Mathlib.Data.List.TakeWhile
/-!
The life of a router.

Purpose: however a router is called, and whatever moves between the calls, its life goes from
building to running to stopped, or from building to stopped, and the calls for start and shutdown
alone decide where it is. The registrations are those that were admitted before the start; later
ones are refused and change nothing. While the router runs, its one server is the consumer and
resolves requests against exactly these registrations, in their order, so that an event comes to the
acknowledgement of what its requests come to with them; at any other time nobody listens, and every
request fails for want of a consumer.

Main exports: `Session.lives_of`, `Session.Lifecycle`, `Session.lifecycle`.
-/

namespace EventDispatch

namespace Session

variable {settings : MapperSettings} {acts : List Act} {s : Session}

/-! ### Stages -/

theorem Act.ends_iff {a : Act} : a.ends = true ↔ a = .call .start ∨ a = .call .shutdown := by
  unfold Act.ends
  split <;> simp_all

theorem stageAfter_eq_building_iff {stage : Router.Stage} {a : Act} :
    stageAfter stage a = .building ↔ stage = .building ∧ a.ends = false := by
  unfold stageAfter
  split <;> simp_all [Act.ends]

theorem stageAfter_eq_stopped_iff {stage : Router.Stage} {a : Act} :
    stageAfter stage a = .stopped ↔ stage = .stopped ∨ a = .call .shutdown := by
  unfold stageAfter
  split <;> simp_all

/-- A stage follows itself, or one of the two before it. -/
theorem stageAfter_cases (stage : Router.Stage) (a : Act) :
    stageAfter stage a = stage ∨
    (stage = .building ∧ a = .call .start ∧ stageAfter stage a = .running) ∨
    (a = .call .shutdown ∧ stageAfter stage a = .stopped) := by
  unfold stageAfter
  split <;> simp_all

theorem building_iff_ends : (of settings acts).stage = .building ↔ ∀ a ∈ acts, a.ends = false := by
  induction acts using List.reverseRecOn with
  | nil => simp [of, stage, Router.stage]
  | append_singleton acts a inductionHypothesis =>
      rw [of_concat, stage_next, stageAfter_eq_building_iff, inductionHypothesis]
      simp [or_imp, forall_and]

theorem building_iff : (of settings acts).stage = .building ↔
    .call .start ∉ acts ∧ .call .shutdown ∉ acts := by
  rw [building_iff_ends]
  constructor
  · intro quiet
    constructor
    · intro started
      simpa [Act.ends] using quiet _ started
    · intro shutDown
      simpa [Act.ends] using quiet _ shutDown
  · rintro ⟨started, shutDown⟩ a member
    rw [← Bool.not_eq_true, Act.ends_iff]
    rintro (rfl | rfl)
    · exact started member
    · exact shutDown member

theorem stopped_iff : (of settings acts).stage = .stopped ↔ .call .shutdown ∈ acts := by
  induction acts using List.reverseRecOn with
  | nil => simp [of, stage, Router.stage]
  | append_singleton acts a inductionHypothesis =>
      rw [of_concat, stage_next, stageAfter_eq_stopped_iff, inductionHypothesis]
      simp [eq_comm]

theorem running_iff : (of settings acts).stage = .running ↔
    .call .start ∈ acts ∧ .call .shutdown ∉ acts := by
  have neither : (of settings acts).stage = .running ↔
      (of settings acts).stage ≠ .building ∧ (of settings acts).stage ≠ .stopped := by
    cases (of settings acts).stage <;> simp
  rw [neither, Ne, Ne, building_iff, stopped_iff]
  tauto

/-! ### Registrations -/

/-- Registrations are made by an act as long as no act has ended the time for them. -/
theorem registered_concat (settings : MapperSettings) (acts : List Act) (a : Act) :
    registered (acts ++ [a]) = if (of settings acts).stage = .building
      then a.admitted (registered acts) else registered acts := by
  unfold registered
  by_cases quiet : ∀ b ∈ acts, b.ends = false
  · have whole : acts.takeWhile (!·.ends) = acts := by
      rw [List.takeWhile_eq_self_iff]
      simpa using quiet
    rw [if_pos (building_iff_ends.mpr quiet), List.takeWhile_append_of_pos (by simpa using quiet),
      whole, List.foldl_append]
    -- A call that ends the time for registrations asks for none itself.
    cases ended : a.ends with
    | false => simp [ended]
    | true =>
        rcases Act.ends_iff.mp ended with rfl | rfl
        · rfl
        · rfl
  · rw [if_neg (fun stage => quiet (building_iff_ends.mp stage)), List.takeWhile_append, if_neg]
    intro whole
    have all := List.takeWhile_eq_self_iff.mp ((List.takeWhile_prefix _).eq_of_length whole)
    exact quiet (by simpa using all)

/-- Once a router is started or shut down, no act makes a registration. -/
theorem registered_append (settings : MapperSettings) {acts : List Act}
    (ended : (of settings acts).stage ≠ .building) (later : List Act) :
    registered (acts ++ later) = registered acts := by
  induction later using List.reverseRecOn with
  | nil => rw [List.append_nil]
  | append_singleton later a inductionHypothesis =>
      rw [← List.append_assoc, registered_concat settings, if_neg, inductionHypothesis]
      intro building
      apply ended
      rw [building_iff_ends] at building ⊢
      exact fun b member => building b (List.mem_append_left later member)

/-- A router lives with the registrations that the acts so far have made. -/
theorem lives_of (settings : MapperSettings) (acts : List Act) :
    (of settings acts).router.Lives (registered acts) := by
  induction acts using List.reverseRecOn with
  | nil => exact .building rfl .start ⟨rfl, rfl, rfl⟩
  | append_singleton acts a inductionHypothesis =>
      rw [of_concat, registered_concat settings]
      exact lives_next inductionHypothesis a

theorem settings_of (settings : MapperSettings) (acts : List Act) :
    (of settings acts).router.settings = settings := by
  induction acts using List.reverseRecOn with
  | nil => rfl
  | append_singleton acts a inductionHypothesis =>
      rw [of_concat]
      exact (settings_next _ a).trans inductionHypothesis

/-! ### Processing events -/

/-- An outcome is that of the answer which the request gets from the one of some registrations that
a scan selects. A request whose id another one of the list carries may be refused instead. -/
def Comes (rs : List Registration) (wanted : List Request) (i : Nat) (q : Request)
    (outcome : Outcome) : Prop :=
  (∃ response, Registry.handling rs q = .answered response ∧ outcome = response.outcome) ∨
    (outcome = .error ⟨q.id, .broker (.duplicateRequestId q.id)⟩ ∧
      ∃ j other, j ≠ i ∧ wanted[j]? = some other ∧ other.id = q.id)

theorem comes_of_right {g : Registry} {rs : List Registration} (holds : g.Holds rs)
    {wanted : List Request} (settles : g.Settles wanted) {i : Nat} {q : Request}
    (own : wanted[i]? = some q) {outcome : Outcome} (right : Caller.Right wanted g i q outcome) :
    Comes rs wanted i q outcome := by
  rcases right with alone | refused
  · obtain ⟨response, answers⟩ := settles q (List.mem_of_getElem? own)
    rw [answers.outcome] at alone
    rw [Comes, ← holds.handle]
    exact Or.inl ⟨response, Registry.handle_of_answers answers, (Option.some.inj alone).symm⟩
  · exact Or.inr refused

/-- A router that runs acknowledges what the requests of an event come to with its registrations. -/
theorem processed_of_running (stage : (of settings acts).stage = .running) {fresh : Nat → String}
    {context : Context} {event : Json} {mapped : MappedEvent}
    (maps : settings.map fresh context event = .ok mapped)
    (free : ∀ q ∈ mapped.requests, ¬ (of settings acts).scene.InFlight q.id)
    (answered : ∀ q ∈ mapped.requests,
      ∃ response, Registry.handling (registered acts) q = .answered response) :
    ∃ settled, ((of settings acts).router.call (.process fresh context event)).2
        = .processed (some ((mapped.responder.acknowledge settled).mapError .correlation)) ∧
      settled.length = mapped.requests.length ∧
      ∀ i q, mapped.requests[i]? = some q →
        ∃ outcome, settled[i]? = some ⟨q, outcome⟩ ∧
          Comes (registered acts) mapped.requests i q outcome := by
  obtain ⟨g, c, _, holds, serving⟩ := (lives_of settings acts).of_running stage
  have settles : g.Settles mapped.requests := by
    intro q member
    obtain ⟨response, handled⟩ := answered q member
    rw [← holds.handle] at handled
    exact ⟨response, Registry.handle_eq_answered_iff.mp handled⟩
  have dispatched : (of settings acts).router.settings.dispatch fresh context event
      = .ok ⟨mapped.responder, mapped.requests.map fun q => { request := q }⟩ := by
    rw [settings_of, MapperSettings.dispatch, maps]
  obtain ⟨settled, processed, length, entries⟩ :=
    Exchange.process_right dispatched (sound_of settings acts) serving.listening settles free
  refine ⟨settled, congrArg Router.Answer.processed processed, length, ?_⟩
  intro i q own
  obtain ⟨outcome, found, right⟩ := entries i q own
  exact ⟨outcome, found, comes_of_right holds settles own right⟩

/-! ### The whole life -/

/-- The life of a router up to a session, after acts of which some were calls. -/
structure Lifecycle (settings : MapperSettings) (acts : List Act) (s : Session) : Prop where
  /-- A router is built until it is started or shut down. -/
  building : s.stage = .building ↔ .call .start ∉ acts ∧ .call .shutdown ∉ acts
  running : s.stage = .running ↔ .call .start ∈ acts ∧ .call .shutdown ∉ acts
  stopped : s.stage = .stopped ↔ .call .shutdown ∈ acts
  /-- Whatever comes next, the stage stays, or a start leads on from building to running, or a
  shutdown ends the life. -/
  forward : ∀ a, (s.next a).stage = s.stage ∨
    (s.stage = .building ∧ a = .call .start ∧ (s.next a).stage = .running) ∨
    (a = .call .shutdown ∧ (s.next a).stage = .stopped)
  /-- The question whether it runs is answered by the stage, and changes nothing. -/
  asks : s.router.call .isRunning = (s.router, .running (s.stage = .running))
  /-- A router that is built takes registrations up to the first whose key is taken. -/
  registers : s.stage = .building → ∀ c more, c.registrations? = some more →
    registered (acts ++ [.call c]) = (Registry.extend (registered acts) more).1 ∧
    (s.router.call c).2.refusal? = (Registry.extend (registered acts) more).2.map .registry
  /-- Later it refuses them, for the reason that its stage gives, and stays as it is. -/
  refuses : ∀ e, s.stage.refusal? = some e → ∀ c more, c.registrations? = some more →
    (s.router.call c).1 = s.router ∧ (s.router.call c).2.refusal? = some e
  settled : s.stage ≠ .building → ∀ later, registered (acts ++ later) = registered acts
  /-- It is started once: again means nothing, and after a shutdown it is refused. -/
  starts : s.stage = .building → (s.router.call .start).2 = .started (.ok ())
  started : s.stage = .running → s.router.call .start = (s.router, .started (.ok ()))
  neverAgain : s.stage = .stopped →
    s.router.call .start = (s.router, .started (.error .stopped))
  /-- While it runs, its server is the consumer and goes by the registrations. -/
  serves : s.stage = .running → ∃ n g, s.router.phase = .running n ∧
    s.router.exchange.Listening n g ∧ s.router.exchange.bus.hasConsumer = true ∧
    ∀ message, g.resolve message = .ofSelected (Registry.scan (registered acts) message)
  /-- Every request that a job has taken is handled by the registrations. -/
  handles : ∀ job ∈ s.router.exchange.jobs,
    job.registry.handle job.request = Registry.handling (registered acts) job.request
  /-- To process an event is a course of acts that could as well happen between calls, so that all
  of this holds throughout. -/
  processes : ∀ fresh context event, ∃ steps : List Act, (∀ a ∈ steps, a.Quiet) ∧
    s.next (.call (.process fresh context event)) = steps.foldl next s
  /-- While it runs, an event comes to the acknowledgement of what its requests come to with the
  registrations, in order, if they all come to answers and nobody else uses their ids. -/
  resolves : s.stage = .running → ∀ fresh context event mapped,
    settings.map fresh context event = .ok mapped →
    (∀ q ∈ mapped.requests, ¬ s.scene.InFlight q.id) →
    (∀ q ∈ mapped.requests,
      ∃ response, Registry.handling (registered acts) q = .answered response) →
    ∃ settled, (s.router.call (.process fresh context event)).2
        = .processed (some ((mapped.responder.acknowledge settled).mapError .correlation)) ∧
      settled.length = mapped.requests.length ∧
      ∀ i q, mapped.requests[i]? = some q →
        ∃ outcome, settled[i]? = some ⟨q, outcome⟩ ∧
          Comes (registered acts) mapped.requests i q outcome
  /-- An event that cannot be mapped is told so in every stage, and changes nothing. -/
  unmapped : ∀ fresh context event e, settings.map fresh context event = .error e →
    s.router.call (.process fresh context event)
      = (s.router, .processed (some (.error (.mapping e))))
  /-- Unless it runs, every event is acknowledged as one whose requests nobody hears. -/
  unheard : s.stage ≠ .running → ∀ fresh context event,
    (s.router.call (.process fresh context event)).2
      = .processed (some (settings.unheard fresh context event))
  /-- Nor does anybody hear what is still to be sent for an event that was begun before. -/
  unsent : s.stage ≠ .running → ∀ q : Request,
    s.router.exchange.look { request := q } = (s.router.exchange, .unheard q)

/-- Whatever a router is called for and whatever moves, its life takes this course. -/
theorem lifecycle (settings : MapperSettings) (acts : List Act) :
    Lifecycle settings acts (of settings acts) where
  building := building_iff
  running := running_iff
  stopped := stopped_iff
  forward := by
    intro a
    rw [stage_next]
    exact stageAfter_cases _ a
  asks := by
    rw [Router.call, Router.isRunning_eq]
    rfl
  registers := by
    intro stage c more asked
    obtain ⟨g, phase, holds⟩ := (lives_of settings acts).of_building stage
    refine ⟨?_, ?_⟩
    · rw [registered_concat settings, if_pos stage]
      simp only [Act.admitted, Router.Call.admitted, asked]
    · rw [(Router.call_of_building phase asked).2,
        (holds.addAll (Router.Call.key_of_registrations asked)).2]
  refuses := fun e built c more asked => Router.call_of_built built asked
  settled := registered_append settings
  starts := by
    intro stage
    obtain ⟨g, phase, _⟩ := (lives_of settings acts).of_building stage
    simp [Router.call, Router.start, phase]
  started := by
    intro stage
    obtain ⟨g, c, phase, _⟩ := (lives_of settings acts).of_running stage
    simp [Router.call, Router.start, phase]
  neverAgain := by
    intro stage
    simp [Router.call, Router.start, Router.phase_of_stopped stage]
  serves := by
    intro stage
    obtain ⟨g, c, phase, holds, serving⟩ := (lives_of settings acts).of_running stage
    exact ⟨0, g, phase, serving.listening, serving.hasConsumer, holds.resolve⟩
  handles := by
    intro job member
    exact ((lives_of settings acts).holds_of_job member).handle job.request
  processes := process_eq_acts _
  resolves := fun stage fresh context event mapped maps free answered =>
    processed_of_running stage maps free answered
  unmapped := by
    intro fresh context event e fails
    have dispatched : (of settings acts).router.settings.dispatch fresh context event
        = .error (.mapping e) := by
      rw [settings_of, MapperSettings.dispatch, fails]
    simp only [Router.call, Router.process, Exchange.process, dispatched]
  unheard := by
    intro idle fresh context event
    have deaf := (lives_of settings acts).deaf idle
    simp only [Router.call, Router.process]
    rw [Exchange.process_deaf deaf, settings_of]
  unsent := by
    intro idle
    exact Exchange.look_deaf ((lives_of settings acts).deaf idle)

/-- A registration of a handler that gives back data. -/
def greeter : Registration :=
  .make (.string "/") (.ofFunction fun q => .ok (.value q.data)) .message {}

/-- A router takes this registration and is started. -/
def greeting : List Act :=
  [.call (.register greeter.pattern greeter.handler greeter.kind greeter.extras), .call .start]

/-- It answers the first event. -/
theorem greeting_answered : (of {} greeting).stage = .running ∧
    ((of {} greeting).router.call (.process (fun _ => "1") {} (.bool true))).2
      = .processed (some (.ok (.reply (.bool true)))) := by
  have life := lifecycle {} greeting
  have stage : (of {} greeting).stage = .running :=
    life.running.mpr ⟨by simp [greeting], by simp [greeting]⟩
  refine ⟨stage, ?_⟩
  rcases Registry.Holds.start.add (r := greeter) rfl with ⟨taken, _⟩ | ⟨_, g, registered, holds⟩
  · cases taken
  · have scene : (of {} greeting).scene = Scene.of [.serve g, .listen 0] := by
      have admitted : Registry.empty.register greeter.pattern greeter.handler greeter.kind
          greeter.extras = .ok g := registered
      simp only [of, greeting, List.foldl_cons, List.foldl_nil, next, Router.call, Router.register,
        Router.withRegistry, admitted]
      rfl
    let q : Request := ⟨"1", .string "/", .bool true, {}⟩
    have handled : Registry.handling (Session.registered greeting) q
        = .answered (.reply "1" (.bool true)) := by
      have taken : g.resolve q.pattern = .message greeter := Registry.resolve_of_register registered
      exact (holds.handle q).symm.trans (Registry.handle_of_message taken)
    obtain ⟨settled, processed, length, entries⟩ := life.resolves stage (fun _ => "1") {}
      (.bool true) ⟨.custom, [q], .singleReply⟩ rfl
      (fun q _ => scene ▸ Scene.not_inFlight_of_listening g q.id)
      (fun other member => ⟨_, List.mem_singleton.mp member ▸ handled⟩)
    obtain ⟨outcome, there, comes⟩ := entries 0 q rfl
    obtain ⟨s, rfl⟩ := List.length_eq_one_iff.mp length
    cases there
    rw [processed]
    rcases comes with ⟨response, answered, rfl⟩ | ⟨_, j, other, differs, place, _⟩
    · cases handled.symm.trans answered
      rfl
    · -- There is no other request.
      rw [List.getElem?_eq_none (Nat.one_le_iff_ne_zero.mpr differs)] at place
      cases place

end Session
end EventDispatch
