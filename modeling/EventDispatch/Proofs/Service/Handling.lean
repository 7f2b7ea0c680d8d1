import EventDispatch.Handler.Reply
import EventDispatch.Proofs.Handler.Registry
import EventDispatch.Service.Handling
/-!
What handling a request comes to.

Purpose: the answer to a request is determined by where the request goes and by what the selected
handler does with it. Three things keep a request from an answer: a match that crashes while the
handler is looked for, a handler that crashes on being called, and one that runs without end.
Handlers that were not selected have no part in it.

Main exports: `Registry.Answers`, `Registry.CrashesOnMatch`, `Registry.CrashesOnCall`,
`Registry.RunsOn`, `Registry.handle_eq_answered_iff`, `Registry.exists_answers_iff`,
`Registry.handle_withHandlers`, `Handler.Settles`, `Registry.settles_of_handlers`.
-/

namespace EventDispatch.Registry

/-- The answer that a request is to get. -/
inductive Answers (g : Registry) (request : Request) : Response → Prop where
  | unqualified (nobody : g.resolve request.pattern = .none) :
      Answers g request (.failure request.id .noHandlerQualified)
  | event {r : Registration} (taken : g.resolve request.pattern = .event r) :
      Answers g request (.failure request.id .illegalEventHandler)
  | replied {r : Registration} {value : Json} (taken : g.resolve request.pattern = .message r)
      (run : r.handler request = .replied value) : Answers g request (.reply request.id value)
  | failed {r : Registration} {error : HandlerError}
      (taken : g.resolve request.pattern = .message r)
      (run : r.handler request = .failed error) :
      Answers g request (.failure request.id error.response)
  | answered {r : Registration} {error : ResponseError}
      (taken : g.resolve request.pattern = .message r)
      (run : r.handler request = .answered error) : Answers g request (.failure request.id error)
  | crashed {r : Registration} {message : String}
      (taken : g.resolve request.pattern = .message r)
      (run : r.handler request = .crashed message) :
      Answers g request (.failure request.id .internal)

/-- A match crashes while the handler of the request is looked for. -/
def CrashesOnMatch (g : Registry) (request : Request) : Prop :=
  g.resolve request.pattern = .crashed

/-- The selected handler crashes on being called with the request. -/
def CrashesOnCall (g : Registry) (request : Request) : Prop :=
  ∃ r message, g.resolve request.pattern = .message r ∧
    r.handler request = .crashedOnCall message

/-- The selected handler runs without end on the request. -/
def RunsOn (g : Registry) (request : Request) : Prop :=
  ∃ r, g.resolve request.pattern = .message r ∧ r.handler request = .endless

variable {g : Registry} {request : Request} {response : Response}

theorem Answers.terminal (answers : g.Answers request response) : response.terminal = true := by
  cases answers <;> rfl

theorem Answers.id (answers : g.Answers request response) : response.id = request.id := by
  cases answers <;> rfl

theorem handle_of_message {r : Registration} (taken : g.resolve request.pattern = .message r) :
    g.handle request = (r.handler request).handling request.id := by
  simp [handle, taken, Resolution.result?]

theorem not_crashesOnMatch_of_message {r : Registration}
    (taken : g.resolve request.pattern = .message r) : ¬ g.CrashesOnMatch request := by
  intro crashes
  cases taken.symm.trans crashes

/-- Handling a request comes to its answer, is lost in a crash, or goes on without end. -/
theorem handle_cases (g : Registry) (request : Request) :
    (∃ response, g.handle request = .answered response ∧ g.Answers request response) ∨
    (g.handle request = .lost ∧ (g.CrashesOnMatch request ∨ g.CrashesOnCall request)) ∨
    (g.handle request = .endless ∧ g.RunsOn request) := by
  cases taken : g.resolve request.pattern with
  | crashed =>
      exact Or.inr (Or.inl ⟨by simp [handle, taken, Resolution.result?], Or.inl taken⟩)
  | none =>
      exact Or.inl ⟨_, by simp [handle, taken, Resolution.result?], .unqualified taken⟩
  | event r =>
      exact Or.inl ⟨_, by simp [handle, taken, Resolution.result?], .event taken⟩
  | message r =>
      rw [handle_of_message taken]
      cases run : r.handler request with
      | replied value => exact Or.inl ⟨_, rfl, .replied taken run⟩
      | failed error => exact Or.inl ⟨_, rfl, .failed taken run⟩
      | answered error => exact Or.inl ⟨_, rfl, .answered taken run⟩
      | crashed message => exact Or.inl ⟨_, rfl, .crashed taken run⟩
      | crashedOnCall message => exact Or.inr (Or.inl ⟨rfl, Or.inr ⟨r, message, taken, run⟩⟩)
      | endless => exact Or.inr (Or.inr ⟨rfl, r, taken, run⟩)

theorem handle_of_answers (answers : g.Answers request response) :
    g.handle request = .answered response := by
  cases answers with
  | unqualified nobody => simp [handle, nobody, Resolution.result?]
  | event taken => simp [handle, taken, Resolution.result?]
  | replied taken run => simp [handle_of_message taken, run, Run.handling]
  | failed taken run => simp [handle_of_message taken, run, Run.handling]
  | answered taken run => simp [handle_of_message taken, run, Run.handling]
  | crashed taken run => simp [handle_of_message taken, run, Run.handling]

theorem handle_of_crashesOnMatch (crashes : g.CrashesOnMatch request) :
    g.handle request = .lost := by
  simp [handle, show g.resolve request.pattern = .crashed from crashes, Resolution.result?]

theorem handle_of_crashesOnCall (crashes : g.CrashesOnCall request) :
    g.handle request = .lost := by
  obtain ⟨r, message, taken, run⟩ := crashes
  simp [handle_of_message taken, run, Run.handling]

theorem handle_of_runsOn (endless : g.RunsOn request) : g.handle request = .endless := by
  obtain ⟨r, taken, run⟩ := endless
  simp [handle_of_message taken, run, Run.handling]

theorem handle_eq_answered_iff :
    g.handle request = .answered response ↔ g.Answers request response := by
  constructor
  · intro handled
    rcases handle_cases g request with ⟨other, result, answers⟩ | ⟨result, _⟩ | ⟨result, _⟩
    · rw [result] at handled
      cases handled
      exact answers
    · rw [result] at handled
      cases handled
    · rw [result] at handled
      cases handled
  · exact handle_of_answers

/-- A request has an answer unless a match crashes while its handler is looked for, or the handler
crashes on being called or runs on without end. -/
theorem exists_answers_iff :
    (∃ response, g.Answers request response) ↔
      ¬ g.CrashesOnMatch request ∧ ¬ g.CrashesOnCall request ∧ ¬ g.RunsOn request := by
  constructor
  · rintro ⟨response, answers⟩
    have handled := handle_of_answers answers
    refine ⟨?_, ?_, ?_⟩
    · intro crashes
      rw [handle_of_crashesOnMatch crashes] at handled
      cases handled
    · intro crashes
      rw [handle_of_crashesOnCall crashes] at handled
      cases handled
    · intro endless
      rw [handle_of_runsOn endless] at handled
      cases handled
  · rintro ⟨orderly, sturdy, finite⟩
    rcases handle_cases g request with
      ⟨response, _, answers⟩ | ⟨_, crashes | crashes⟩ | ⟨_, endless⟩
    · exact ⟨response, answers⟩
    · exact absurd crashes orderly
    · exact absurd crashes sturdy
    · exact absurd endless finite

/-- Other handlers for all registrations change the outcome of a request only through the selected
one, and not at all when none is selected that gives answers. -/
theorem handle_withHandlers (g : Registry) (f : Registration → Handler) (request : Request) :
    (g.withHandlers f).handle request =
      match g.resolve request.pattern with
      | .message r => (f r request).handling request.id
      | _ => g.handle request := by
  cases taken : g.resolve request.pattern <;>
    simp [handle, resolve_withHandlers, taken, Resolution.withHandlers, Resolution.result?,
      Registration.withHandler]

end EventDispatch.Registry

namespace EventDispatch.Handler

/-- A handler that ends every run, with a reply, an error or a crash while it runs. -/
def Settles (handler : Handler) : Prop :=
  ∀ request, (∀ message, handler request ≠ .crashedOnCall message) ∧ handler request ≠ .endless

/-- Handlers made of functions settle. -/
theorem settles_ofFunction (f : Request → Except HandlerError Returned) :
    (ofFunction f).Settles := by
  intro request
  unfold ofFunction
  cases f request >>= Returned.reply <;> simp [Run.ofResult]

end EventDispatch.Handler

namespace EventDispatch.Registry

/-- Handling any of some requests with the handlers of a registry comes to an answer. -/
def Settles (g : Registry) (wanted : List Request) : Prop :=
  ∀ q ∈ wanted, ∃ response, g.Answers q response

/-- The handler that alone was registered settles, so all handlers do. -/
theorem settles_of_register {g : Registry} {pattern : Pattern} {handler : Handler}
    {kind : HandlerKind} {extras : Extras}
    (registered : empty.register pattern handler kind extras = .ok g)
    (settles : handler.Settles) : ∀ r ∈ g.toList, r.handler.Settles := by
  rw [toList_of_register registered]
  exact List.forall_mem_singleton.mpr settles

theorem settles_of_handlers {g : Registry} {wanted : List Request}
    (settling : ∀ r ∈ g.toList, r.handler.Settles)
    (matching : ∀ q ∈ wanted, ¬ g.CrashesOnMatch q) : g.Settles wanted := by
  intro q member
  refine exists_answers_iff.mpr ⟨matching q member, ?_, ?_⟩
  · rintro ⟨r, message, taken, run⟩
    exact (settling r (mem_of_resolve taken) q).1 message run
  · rintro ⟨r, taken, run⟩
    exact (settling r (mem_of_resolve taken) q).2 run

end EventDispatch.Registry
