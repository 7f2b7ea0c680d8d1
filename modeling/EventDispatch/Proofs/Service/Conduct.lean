import EventDispatch.Handler.Reply
import EventDispatch.Proofs.Service.Caller
/-!
What handlers do, with all that they say.

Purpose: the run of a handler says less than what happened. The layers of a function's result are
gone, and services are not told from functions. A conduct keeps all of it. Internal failures are
told apart by their conducts, by their runs still in part, and by the outcomes that senders are told
of not at all; refusals keep their texts.

Main exports: `Conduct`, `Conduct.run`, `Conduct.Internal`, `Conduct.Alike`, `Conduct.Tells`,
`Run.muted`, `Registry.conducted`, `Registry.muted`, `Registry.handle_muted`,
`Registry.muted_conducted`, `Registry.tells_of_answers`.
-/

namespace EventDispatch

/-- What a handler does on a request, with all that it says. -/
inductive Conduct where
  /-- A function gives something back, or cannot take what it needs from the request. -/
  | function (result : Except HandlerError Returned)
  /-- A service gives a reply or an error. -/
  | service (result : Except ErrorOrigin Json)
  /-- A handler makes its answer itself. -/
  | plain (result : Except ResponseError Json)
  | crashes (message : String)
  | crashesOnCall (message : String)
  | runsOn
deriving Inhabited

/-- The run that a conduct comes down to. -/
def Conduct.run : Conduct → Run
  | function result => .ofResult (result >>= Returned.reply)
  | service result => .ofResult (result.mapError HandlerError.ofOrigin)
  | plain (.ok value) => .replied value
  | plain (.error error) => .answered error
  | crashes message => .crashed message
  | crashesOnCall message => .crashedOnCall message
  | runsOn => .endless

theorem Handler.ofFunction_eq (f : Request → Except HandlerError Returned) :
    ofFunction f = fun request => (Conduct.function (f request)).run := rfl

theorem Handler.ofService_eq (service : Request → Except ErrorOrigin Json) :
    ofService service = fun request => (Conduct.service (service request)).run := rfl

/-- Whatever a handler does is a conduct. -/
theorem Run.exists_conduct (run : Run) : ∃ c : Conduct, c.run = run := by
  cases run with
  | replied value => exact ⟨.plain (.ok value), rfl⟩
  | failed error => exact ⟨.function (.error error), rfl⟩
  | answered error => exact ⟨.plain (.error error), rfl⟩
  | crashed message => exact ⟨.crashes message, rfl⟩
  | crashedOnCall message => exact ⟨.crashesOnCall message, rfl⟩
  | endless => exact ⟨.runsOn, rfl⟩

/-! ### Internal failures -/

/-- An error is an internal failure, whatever its message. -/
inductive ErrorOrigin.Internal : ErrorOrigin → Prop where
  | own (message : String) : Internal (.own (.internal message))
  | elsewhere (message : String) : Internal (.elsewhere message)
  | unwritable (message : String) : Internal (.unwritable message)

/-- What a function gives back holds an error, under all its layers. -/
inductive Returned.Holds : Returned → ErrorOrigin → Prop where
  | unwritable (message : String) : Holds (.unwritable message) (.unwritable message)
  | error (origin : ErrorOrigin) : Holds (.error origin) origin
  | present {inner : Returned} {origin : ErrorOrigin} (holds : inner.Holds origin) :
      Holds (.present inner) origin
  | ok {inner : Returned} {origin : ErrorOrigin} (holds : inner.Holds origin) :
      Holds (.ok inner) origin

/-- A conduct ends with an error. -/
inductive Conduct.Fails : Conduct → ErrorOrigin → Prop where
  | argument (error : HandlerError) : Fails (.function (.error error)) (.own error)
  | function {returned : Returned} {origin : ErrorOrigin} (holds : returned.Holds origin) :
      Fails (.function (.ok returned)) origin
  | service (origin : ErrorOrigin) : Fails (.service (.error origin)) origin

/-- A conduct is an internal failure: it ends with such an error, or with a crash. -/
inductive Conduct.Internal : Conduct → Prop where
  | failed {c : Conduct} {origin : ErrorOrigin} (fails : c.Fails origin)
      (internal : origin.Internal) : Internal c
  | crashed (message : String) : Internal (.crashes message)

/-- Two conducts that are the same, or differ in what internal failure they are. -/
def Conduct.Alike (c d : Conduct) : Prop := c = d ∨ c.Internal ∧ d.Internal

theorem ErrorOrigin.Internal.ofOrigin {origin : ErrorOrigin} (internal : origin.Internal) :
    ∃ message, HandlerError.ofOrigin origin = .internal message := by
  cases internal with
  | own message => exact ⟨message, rfl⟩
  | elsewhere message => exact ⟨message, rfl⟩
  | unwritable message => exact ⟨message, rfl⟩

theorem Returned.Holds.reply {returned : Returned} {origin : ErrorOrigin}
    (holds : returned.Holds origin) : returned.reply = .error (.ofOrigin origin) := by
  induction holds with
  | unwritable message => rfl
  | error origin => rfl
  | present _ inductionHypothesis => exact inductionHypothesis
  | ok _ inductionHypothesis => exact inductionHypothesis

theorem Conduct.Fails.run {c : Conduct} {origin : ErrorOrigin} (fails : c.Fails origin) :
    c.run = .failed (.ofOrigin origin) := by
  cases fails with
  | argument error => rfl
  | function holds =>
      have reply : (.ok _ >>= Returned.reply) = _ := holds.reply
      simp only [Conduct.run, reply]
      rfl
  | service origin => rfl

/-! ### Runs that are not told apart -/

namespace Run

/-- A run is an internal failure. -/
inductive Internal : Run → Prop where
  | failed (message : String) : Internal (.failed (.internal message))
  | crashed (message : String) : Internal (.crashed message)

/-- The run without what an internal failure says: all of them are crashes without a message. -/
def muted : Run → Run
  | failed (.internal _) => .crashed ""
  | crashed _ => .crashed ""
  | run => run

theorem muted_of_internal {run : Run} (internal : run.Internal) : run.muted = .crashed "" := by
  cases internal <;> rfl

/-- What an internal failure says does not go into the handling. -/
theorem handling_muted (run : Run) (id : String) : run.muted.handling id = run.handling id := by
  cases run with
  | failed error => cases error <;> rfl
  | _ => rfl

end Run

namespace Conduct

variable {c d : Conduct}

theorem Internal.run (internal : c.Internal) : c.run.Internal := by
  cases internal with
  | failed fails internal =>
      obtain ⟨message, origin⟩ := internal.ofOrigin
      rw [fails.run, origin]
      exact .failed message
  | crashed message => exact .crashed message

theorem Alike.muted (alike : c.Alike d) : c.run.muted = d.run.muted := by
  rcases alike with rfl | ⟨first, second⟩
  · rfl
  · rw [Run.muted_of_internal first.run, Run.muted_of_internal second.run]

/-- What the sender of a request with an id is told of a conduct: of an internal failure that it is
one, and of a refusal all that it says. -/
structure Tells (c : Conduct) (id : String) (outcome : Outcome) : Prop where
  internal : c.Internal →
    outcome = .error ⟨id, .remote ⟨.internal, "Internal server error", none⟩⟩
  refused : ∀ message details, c.Fails (.own (.refused message details)) →
    outcome = .error ⟨id, .remote ⟨.handler, message, details⟩⟩
  text : ∀ message, c.Fails (.text message) →
    outcome = .error ⟨id, .remote ⟨.handler, message, none⟩⟩
  payload : ∀ typeName reason, c.Fails (.own (.payload typeName reason)) →
    outcome = .error ⟨id, .remote
      ⟨.handler, "invalid payload for '" ++ typeName ++ "': " ++ reason, none⟩⟩
  answered : ∀ error, c = .plain (.error error) → outcome = .error ⟨id, .remote error⟩
  replied : ∀ value, c.run = .replied value → outcome = .ok value

/-- The outcome of a failed run, which is that of its error. -/
private theorem outcome_of_failed {run : Run} {error : HandlerError} {id : String}
    {response : Response} (failed : run = .failed error)
    (handled : run.handling id = .answered response) :
    response.outcome = .error ⟨id, .remote error.response⟩ := by
  subst failed
  cases handled
  rfl

/-- The answer that a conduct comes to tells what the sender is to be told. -/
theorem tells_of_handling {id : String} {response : Response}
    (handled : c.run.handling id = .answered response) : c.Tells id response.outcome where
  internal := by
    intro internal
    have ends := internal.run
    generalize c.run = run at handled ends
    cases ends with
    | failed message => exact outcome_of_failed rfl handled
    | crashed message =>
        cases handled
        rfl
  refused := fun _ _ fails => outcome_of_failed fails.run handled
  text := fun _ fails => outcome_of_failed fails.run handled
  payload := fun _ _ fails => outcome_of_failed fails.run handled
  answered := by
    rintro error rfl
    cases handled
    rfl
  replied := by
    intro value replies
    rw [replies] at handled
    cases handled
    rfl

end Conduct

namespace Registry

variable {g : Registry}

/-- The registry whose handlers do what is given. -/
def conducted (g : Registry) (deeds : Registration → Request → Conduct) : Registry :=
  g.withHandlers fun r request => (deeds r request).run

/-- The registry without what internal failures of its handlers say. -/
def muted (g : Registry) : Registry := g.withHandlers fun r request => (r.handler request).muted

/-- Every registry has handlers that do something. -/
theorem exists_conducted (g : Registry) : ∃ deeds, g.conducted deeds = g := by
  obtain ⟨deed, runs⟩ := Classical.skolem.mp Run.exists_conduct
  have handlers : (fun r request => (deed (r.handler request)).run) = Registration.handler := by
    funext r request
    exact runs _
  refine ⟨fun r request => deed (r.handler request), ?_⟩
  unfold conducted
  rw [handlers]
  have same : Registration.withHandler Registration.handler = id := rfl
  simp [withHandlers, same]

theorem muted_withHandlers (g : Registry) (f : Registration → Handler) :
    (g.withHandlers f).muted = g.withHandlers fun r request => (f r request).muted := by
  simp only [muted, withHandlers, Array.map_map]
  rfl

/-- Registries whose handlers do the same up to internal failures are not told apart once these are
muted. -/
theorem muted_conducted {deeds others : Registration → Request → Conduct}
    (alike : ∀ r request, (deeds r request).Alike (others r request)) :
    (g.conducted deeds).muted = (g.conducted others).muted := by
  simp only [conducted, muted_withHandlers]
  congr 1
  funext r request
  exact (alike r request).muted

/-- What internal failures say has no part in how a request is handled. -/
theorem handle_muted (g : Registry) (request : Request) :
    g.muted.handle request = g.handle request := by
  unfold muted
  rw [handle_withHandlers]
  cases taken : g.resolve request.pattern with
  | message r =>
      rw [handle_of_message taken]
      exact Run.handling_muted _ _
  | event r => rfl
  | none => rfl
  | crashed => rfl

/-- What the sender of a request is told where the handlers of a registry do what is given. -/
inductive Tells (g : Registry) (deeds : Registration → Request → Conduct) (request : Request) :
    Outcome → Prop where
  | unqualified (nobody : g.resolve request.pattern = .none) :
      Tells g deeds request (.error ⟨request.id, .remote .noHandlerQualified⟩)
  | event {r : Registration} (taken : g.resolve request.pattern = .event r) :
      Tells g deeds request (.error ⟨request.id, .remote .illegalEventHandler⟩)
  | message {r : Registration} {outcome : Outcome}
      (taken : g.resolve request.pattern = .message r)
      (tells : (deeds r request).Tells request.id outcome) : Tells g deeds request outcome

/-- The answer to a request tells what its sender is to be told. -/
theorem tells_of_answers {deeds : Registration → Request → Conduct} {request : Request}
    {response : Response} (answers : (g.conducted deeds).Answers request response) :
    g.Tells deeds request response.outcome := by
  have handled := handle_of_answers answers
  have outcome := answers.outcome
  unfold conducted at handled outcome
  rw [handle_withHandlers] at handled
  unfold outcome? at outcome
  rw [resolve_withHandlers] at outcome
  cases taken : g.resolve request.pattern with
  | none =>
      rw [taken] at outcome
      rw [← Option.some.inj outcome]
      exact .unqualified taken
  | event r =>
      rw [taken] at outcome
      rw [← Option.some.inj outcome]
      exact .event taken
  | crashed =>
      rw [taken] at outcome
      cases outcome
  | message r =>
      rw [taken] at handled
      exact .message taken (Conduct.tells_of_handling handled)

end Registry
end EventDispatch
