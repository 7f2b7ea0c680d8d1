import EventDispatch.Proofs.Service.Moves
import Mathlib.Data.List.Perm.Basic
/-!
One answer per request.

Purpose: along every schedule each job that was started is under way or has ended, once. A job that
has ended has published one response, its answer, unless a match crashed while its handler was
looked for, or the handler crashed on being called; then it has published none. A job that is under
way can always end, unless its handler runs on without end. What subscribers see of a schedule are
the answers, in the order in which the jobs ended.

Main exports: `Job.answer?`, `Exchange.along`, `Exchange.starts?`, `Exchange.ends?`,
`Exchange.publishes?`, `Exchange.jobs_runSchedule`, `Exchange.one_answer_per_request`.
-/

namespace EventDispatch

/-- The response that ends a job, if one does. -/
def Job.answer? (job : Job) : Option Response :=
  match job.registry.handle job.request with
  | .answered response => some response
  | _ => none

/-- A job whose handler runs on without end. -/
def Job.RunsOn (job : Job) : Prop := job.registry.RunsOn job.request

/-- A job that crashes before its handler runs: in a match, or on calling the handler. -/
def Job.Crashes (job : Job) : Prop :=
  job.registry.CrashesOnMatch job.request ∨ job.registry.CrashesOnCall job.request

namespace Job

variable {job : Job}

theorem answer?_eq_some_iff {response : Response} :
    job.answer? = some response ↔ job.registry.Answers job.request response := by
  rw [← Registry.handle_eq_answered_iff]
  unfold answer?
  cases job.registry.handle job.request <;> simp

theorem answer?_eq_none_iff : job.answer? = none ↔ job.Crashes ∨ job.RunsOn := by
  unfold answer?
  constructor
  · intro silent
    rcases Registry.handle_cases job.registry job.request with
      ⟨response, result, _⟩ | ⟨_, crashes⟩ | ⟨_, endless⟩
    · simp [result] at silent
    · exact Or.inl crashes
    · exact Or.inr endless
  · rintro ((crashes | crashes) | endless)
    · simp [Registry.handle_of_crashesOnMatch crashes]
    · simp [Registry.handle_of_crashesOnCall crashes]
    · simp [Registry.handle_of_runsOn endless]

end Job

namespace Bus

/-- Two buses that look the same to subscribers. -/
def SameSubscribers (b d : Bus) : Prop := b.pending = d.pending ∧ b.responses = d.responses

theorem SameSubscribers.trans {b d e : Bus} (first : b.SameSubscribers d)
    (second : d.SameSubscribers e) : b.SameSubscribers e :=
  ⟨first.1.trans second.1, first.2.trans second.2⟩

theorem SameSubscribers.publishResponse {b d : Bus} (same : b.SameSubscribers d)
    (response : Response) :
    (b.publishResponse response).SameSubscribers (d.publishResponse response) := by
  obtain ⟨pending, responses⟩ := same
  unfold Bus.publishResponse
  rw [pending, responses]
  cases d.pending.find? response.id with
  | none => exact ⟨pending, responses⟩
  | some c => exact ⟨rfl, rfl⟩

theorem SameSubscribers.foldl {b d : Bus} (same : b.SameSubscribers d)
    (published : List Response) :
    (published.foldl Bus.publishResponse b).SameSubscribers
      (published.foldl Bus.publishResponse d) := by
  induction published generalizing b d with
  | nil => exact same
  | cons response rest inductionHypothesis =>
      apply inductionHypothesis
      exact same.publishResponse response

end Bus

namespace Exchange

/-- What is seen of the moves of a schedule, in order. -/
def along {α : Type} (see : Exchange → Move → Option α) (x : Exchange) : List Move → List α
  | [] => []
  | m :: moves => (see x m).toList ++ along see ((x.move m).getD x) moves

/-- The job that a move starts: the request that a loop takes, under the loop's registry. -/
def starts? (x : Exchange) : Move → Option Job
  | .receive n => do
    let (server, loop) ← x.runningLoop? n
    match (x.bus.receiveRequest loop.channel).2 with
    | .item request => some ⟨server.registry, request⟩
    | _ => none
  | _ => none

/-- The job that a move ends. -/
def ends? (x : Exchange) (m : Move) : Option Job :=
  match m, x.move m with
  | .finish j, some _ => x.jobs[j]?
  | _, _ => none

/-- The response that a move publishes. -/
def publishes? (x : Exchange) (m : Move) : Option Response := (x.ends? m).bind Job.answer?

theorem runSchedule_cons (x : Exchange) (m : Move) (moves : List Move) :
    x.runSchedule (m :: moves) = ((x.move m).getD x).runSchedule moves := rfl

theorem starts?_eq_some_iff {x : Exchange} {n : Nat} {job : Job} :
    x.starts? (.receive n) = some job ↔ ∃ server loop request,
      x.runningLoop? n = some (server, loop) ∧
      (x.bus.receiveRequest loop.channel).2 = .item request ∧
      job = ⟨server.registry, request⟩ := by
  simp only [starts?, Option.bind_eq_bind, Option.bind_eq_some_iff, Prod.exists]
  constructor
  · rintro ⟨server, loop, running, started⟩
    cases got : (x.bus.receiveRequest loop.channel).2 with
    | item request =>
        rw [got] at started
        cases started
        exact ⟨server, loop, request, running, got, rfl⟩
    | empty => rw [got] at started; cases started
    | disconnected => rw [got] at started; cases started
  · rintro ⟨server, loop, request, running, got, rfl⟩
    exact ⟨server, loop, running, by rw [got]⟩

/-- A loop that takes no request starts no job. -/
theorem starts?_of_move {x : Exchange} {m : Move} (impossible : x.move m = none) :
    x.starts? m = none := by
  cases m with
  | stop n => rfl
  | finish j => rfl
  | receive n =>
      cases started : x.starts? (.receive n) with
      | none => rfl
      | some job =>
          obtain ⟨server, loop, request, running, got, _⟩ := starts?_eq_some_iff.mp started
          rw [move_receive running got] at impossible
          cases impossible

/-- A move starts a job, or ends one, or leaves the jobs. -/
theorem jobs_move (x : Exchange) (m : Move) :
    (x.jobs ++ (x.starts? m).toList).Perm
      ((x.ends? m).toList ++ ((x.move m).getD x).jobs) := by
  have erased : ∀ {j : Nat} {job : Job}, x.jobs[j]? = some job →
      x.jobs.Perm (job :: x.jobs.eraseIdx j) := by
    intro j job found
    obtain ⟨inRange, rfl⟩ := List.getElem?_eq_some_iff.mp found
    exact (List.getElem_cons_eraseIdx_perm inRange).symm
  cases moved : x.move m with
  | none =>
      rw [starts?_of_move moved]
      cases m <;> simp [ends?, moved]
  | some y =>
      rcases move_cases moved with
        ⟨n, server, loop, request, rfl, running, got, rfl⟩ | ⟨n, server, loop, rfl, _, _, rfl⟩ |
        ⟨j, job, response, rfl, found, _, rfl⟩ | ⟨j, job, rfl, found, _, rfl⟩
      · rw [starts?_eq_some_iff.mpr ⟨server, loop, request, running, got, rfl⟩]
        simp [ends?]
      · simp [starts?, ends?, endLoop]
      · simpa [starts?, ends?, moved, found] using erased found
      · simpa [starts?, ends?, moved, found] using erased found

/-- The subscribers' side of the bus changes by what a move publishes, and by nothing else. -/
theorem subscribers_move (x : Exchange) (m : Move) :
    ((x.move m).getD x).bus.SameSubscribers
      ((x.publishes? m).toList.foldl Bus.publishResponse x.bus) := by
  cases moved : x.move m with
  | none => cases m <;> simp [publishes?, ends?, moved, Bus.SameSubscribers]
  | some y =>
      rcases move_cases moved with
        ⟨n, server, loop, request, rfl, _, _, rfl⟩ | ⟨n, server, loop, rfl, _, _, rfl⟩ |
        ⟨j, job, response, rfl, found, handled, rfl⟩ | ⟨j, job, rfl, found, handled, rfl⟩
      · simp [publishes?, ends?, Bus.receiveRequest, Bus.SameSubscribers]
      · simp [publishes?, ends?, endLoop, Bus.releaseConsumer, Bus.SameSubscribers]
      · simp [publishes?, ends?, moved, found, Job.answer?, handled, Bus.SameSubscribers]
      · simp [publishes?, ends?, moved, found, Job.answer?, handled, Bus.SameSubscribers]

/-- Jobs are neither lost nor doubled along a schedule. -/
theorem jobs_runSchedule (x : Exchange) (moves : List Move) :
    (x.jobs ++ x.along starts? moves).Perm
      (x.along ends? moves ++ (x.runSchedule moves).jobs) := by
  induction moves generalizing x with
  | nil => simp [along, runSchedule]
  | cons m moves inductionHypothesis =>
      rw [runSchedule_cons]
      simp only [along]
      rw [← List.append_assoc]
      apply ((jobs_move x m).append_right _).trans
      rw [List.append_assoc, List.append_assoc]
      exact (inductionHypothesis _).append_left _

theorem publishes_eq_answers (x : Exchange) (moves : List Move) :
    x.along publishes? moves = (x.along ends? moves).filterMap Job.answer? := by
  induction moves generalizing x with
  | nil => rfl
  | cons m moves inductionHypothesis =>
      simp only [along, List.filterMap_append, inductionHypothesis]
      congr 1
      cases ended : x.ends? m with
      | none => simp [publishes?, ended]
      | some job => cases answer : job.answer? <;> simp [publishes?, ended, answer]

/-- What subscribers see of a schedule is what was published along it. -/
theorem subscribers_runSchedule (x : Exchange) (moves : List Move) :
    (x.runSchedule moves).bus.SameSubscribers
      ((x.along publishes? moves).foldl Bus.publishResponse x.bus) := by
  induction moves generalizing x with
  | nil => exact ⟨rfl, rfl⟩
  | cons m moves inductionHypothesis =>
      rw [runSchedule_cons]
      simp only [along, List.foldl_append]
      exact (inductionHypothesis _).trans ((subscribers_move x m).foldl _)

/-- A job that has ended did not run on without end. -/
theorem not_runsOn_of_ended {x : Exchange} {moves : List Move} {job : Job}
    (ended : job ∈ x.along ends? moves) : ¬ job.RunsOn := by
  induction moves generalizing x with
  | nil => simp [along] at ended
  | cons m moves inductionHypothesis =>
      rcases List.mem_append.mp ended with now | later
      · intro endless
        have forever := Registry.handle_of_runsOn endless
        cases moved : x.move m with
        | none => cases m <;> simp [ends?, moved] at now
        | some y =>
            rcases move_cases moved with
              ⟨n, server, loop, request, rfl, _⟩ | ⟨n, server, loop, rfl, _⟩ |
              ⟨j, other, response, rfl, found, handled, _⟩ | ⟨j, other, rfl, found, handled, _⟩
            · simp [ends?] at now
            · simp [ends?] at now
            · simp [ends?, moved, found] at now
              rw [now, handled] at forever
              cases forever
            · simp [ends?, moved, found] at now
              rw [now, handled] at forever
              cases forever
      · exact inductionHypothesis later

/-- A job that does not run on without end can end at any time. -/
theorem can_finish {x : Exchange} {j : Nat} {job : Job} (found : x.jobs[j]? = some job)
    (finite : ¬ job.RunsOn) : (x.move (.finish j)).isSome = true := by
  rcases Registry.handle_cases job.registry job.request with
    ⟨response, handled, _⟩ | ⟨handled, _⟩ | ⟨_, endless⟩
  · simp [move, found, handled]
  · simp [move, found, handled]
  · exact absurd endless finite

/-- One answer per request. A request has an answer, which is terminal and carries its id, unless a
match crashes while its handler is looked for, or the handler crashes on being called or runs on
without end, and handling the request gives that answer; handlers that are not selected have no part
in it. A match crashes only where some sequence, of the request's pattern or of a registered one,
cannot be sorted. Along a schedule, jobs that were started end once or are under way; those that
ended published their answers in the order in which they ended, one each, and subscribers saw
nothing else; those under way can end, unless they run on without end. -/
theorem one_answer_per_request (g : Registry) (request : Request) (x : Exchange)
    (moves : List Move) :
    ((∃ response, g.Answers request response) ↔
      ¬ g.CrashesOnMatch request ∧ ¬ g.CrashesOnCall request ∧ ¬ g.RunsOn request) ∧
    (g.CrashesOnMatch request → ¬ Pattern.Sortable request.pattern ∨
      ∃ r ∈ g.toList, ¬ Pattern.Sortable r.pattern) ∧
    (∀ response, g.handle request = .answered response ↔ g.Answers request response) ∧
    (∀ response, g.Answers request response →
      response.terminal = true ∧ response.id = request.id) ∧
    ((∀ r, g.resolve request.pattern ≠ .message r) →
      ∀ f, (g.withHandlers f).handle request = g.handle request) ∧
    (x.jobs ++ x.along starts? moves).Perm
      (x.along ends? moves ++ (x.runSchedule moves).jobs) ∧
    x.along publishes? moves = (x.along ends? moves).filterMap Job.answer? ∧
    (∀ job ∈ x.along ends? moves,
      (∃ response, job.answer? = some response ∧ job.registry.Answers job.request response) ∨
        (job.answer? = none ∧ job.Crashes)) ∧
    (x.runSchedule moves).bus.SameSubscribers
      ((x.along publishes? moves).foldl Bus.publishResponse x.bus) ∧
    ∀ j job, (x.runSchedule moves).jobs[j]? = some job → ¬ job.RunsOn →
      ((x.runSchedule moves).move (.finish j)).isSome = true := by
  refine ⟨Registry.exists_answers_iff, ?_, fun _ => Registry.handle_eq_answered_iff,
    fun _ answers => ⟨answers.terminal, answers.id⟩, ?_, jobs_runSchedule x moves,
    publishes_eq_answers x moves, ?_, subscribers_runSchedule x moves,
    fun j job found finite => can_finish found finite⟩
  · intro crashes
    by_contra orderly
    rw [not_or] at orderly
    refine Registry.resolve_ne_crashed ?_ (not_not.mp orderly.1) crashes
    intro r member
    by_contra unsortable
    exact orderly.2 ⟨r, member, unsortable⟩
  · intro unhandled f
    rw [Registry.handle_withHandlers]
    split
    · rename_i r taken
      exact absurd taken (unhandled r)
    · rfl
  · intro job ended
    cases answer : job.answer? with
    | some response => exact Or.inl ⟨response, rfl, Job.answer?_eq_some_iff.mp answer⟩
    | none =>
        rcases Job.answer?_eq_none_iff.mp answer with crashes | endless
        · exact Or.inr ⟨rfl, crashes⟩
        · exact absurd endless (not_runsOn_of_ended ended)

/-- A handler that crashes on being called leaves its request without an answer: the job ends, and
nothing is published. -/
theorem crash_on_call_unanswered :
    ∃ g, Registry.empty.register (.string "e") (fun _ => .crashedOnCall "") .message {} = .ok g ∧
      (∀ response, ¬ g.Answers { id := "1", pattern := .string "e" } response) ∧
      ∀ x : Exchange, x.jobs = [⟨g, { id := "1", pattern := .string "e" }⟩] →
        x.move (.finish 0) = some { x with jobs := [] } := by
  obtain ⟨g, registered⟩ := Registry.exists_register (Registry.contains_empty (.string "e"))
    (fun _ => .crashedOnCall "") .message {}
  have crashes : g.CrashesOnCall { id := "1", pattern := .string "e" } :=
    ⟨_, _, Registry.resolve_of_register registered, rfl⟩
  refine ⟨g, registered, ?_, ?_⟩
  · intro response answers
    have handled := Registry.handle_of_answers answers
    rw [Registry.handle_of_crashesOnCall crashes] at handled
    cases handled
  · intro x jobs
    simp [move, jobs, Registry.handle_of_crashesOnCall crashes]

end Exchange
end EventDispatch
