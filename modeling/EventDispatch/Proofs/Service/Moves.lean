import EventDispatch.Proofs.Broker.Bus
import EventDispatch.Proofs.Service.Handling
import EventDispatch.Service.Exchange
/-!
Moves of an exchange.

Purpose: everything that a move can be: a loop takes a request and starts a job, a loop ends, or a
job ends, with its answer or without one. What else holds of moves follows from these cases.

Main exports: `Exchange.move_cases`, `Exchange.move_finish`, `Exchange.move_receive`.
-/

namespace EventDispatch.Exchange

variable {x y : Exchange}

theorem runningLoop?_eq_some_iff {n : Nat} {server : Server} {loop : Loop} :
    x.runningLoop? n = some (server, loop) ↔
      x.servers[n]? = some server ∧ server.loop = some loop ∧ loop.running = true := by
  simp only [runningLoop?, Option.bind_eq_bind, Option.bind_eq_some_iff,
    Option.ite_none_right_eq_some, Option.some.injEq, Prod.mk.injEq]
  constructor
  · rintro ⟨_, entry, _, held, running, rfl, rfl⟩
    exact ⟨entry, held, running⟩
  · rintro ⟨entry, held, running⟩
    exact ⟨server, entry, loop, held, running, rfl, rfl⟩

/-- Everything that a move can be. -/
theorem move_cases {m : Move} (moved : x.move m = some y) :
    (∃ n server loop request, m = .receive n ∧ x.runningLoop? n = some (server, loop) ∧
      (x.bus.receiveRequest loop.channel).2 = .item request ∧
      y = { x with
        bus := (x.bus.receiveRequest loop.channel).1
        jobs := x.jobs ++ [⟨server.registry, request⟩] }) ∨
    (∃ n server loop, m = .stop n ∧ x.runningLoop? n = some (server, loop) ∧
      (server.stopped = true ∨ (x.bus.receiveRequest loop.channel).2 = .disconnected) ∧
      y = x.endLoop n server loop) ∨
    (∃ j job response, m = .finish j ∧ x.jobs[j]? = some job ∧
      job.registry.handle job.request = .answered response ∧
      y = { x with bus := x.bus.publishResponse response, jobs := x.jobs.eraseIdx j }) ∨
    (∃ j job, m = .finish j ∧ x.jobs[j]? = some job ∧
      job.registry.handle job.request = .lost ∧ y = { x with jobs := x.jobs.eraseIdx j }) := by
  cases m with
  | receive n =>
      simp only [move, Option.bind_eq_bind, Option.bind_eq_some_iff, Prod.exists] at moved
      obtain ⟨server, loop, running, moved⟩ := moved
      cases received : x.bus.receiveRequest loop.channel with
      | mk bus got =>
          rw [received] at moved
          cases got with
          | item request =>
              cases moved
              exact Or.inl ⟨n, server, loop, request, rfl, running, by rw [received],
                by rw [received]⟩
          | empty => cases moved
          | disconnected => cases moved
  | stop n =>
      simp only [move, Option.bind_eq_bind, Option.bind_eq_some_iff, Prod.exists] at moved
      obtain ⟨server, loop, running, moved⟩ := moved
      have reason : (server.stopped = true ∨
          (x.bus.receiveRequest loop.channel).2 = .disconnected) ∧ x.endLoop n server loop = y := by
        cases got : (x.bus.receiveRequest loop.channel).2 <;> simpa [got] using moved
      exact Or.inr (Or.inl ⟨n, server, loop, rfl, running, reason.1, reason.2.symm⟩)
  | finish j =>
      simp only [move, Option.bind_eq_bind, Option.bind_eq_some_iff] at moved
      obtain ⟨job, found, moved⟩ := moved
      cases handled : job.registry.handle job.request with
      | answered response =>
          rw [handled] at moved
          cases moved
          exact Or.inr (Or.inr (Or.inl ⟨j, job, response, rfl, found, handled, rfl⟩))
      | lost =>
          rw [handled] at moved
          cases moved
          exact Or.inr (Or.inr (Or.inr ⟨j, job, rfl, found, handled, rfl⟩))
      | endless =>
          rw [handled] at moved
          cases moved

/-- A job that comes to an answer can end at any time, and publishes the answer. -/
theorem move_finish {j : Nat} {job : Job} {response : Response} (found : x.jobs[j]? = some job)
    (handled : job.registry.handle job.request = .answered response) :
    x.move (.finish j)
      = some { x with bus := x.bus.publishResponse response, jobs := x.jobs.eraseIdx j } := by
  simp [move, found, handled]

/-- A running loop whose channel holds a request can take it at any time. -/
theorem move_receive {n : Nat} {server : Server} {loop : Loop} {request : Request}
    (running : x.runningLoop? n = some (server, loop))
    (got : (x.bus.receiveRequest loop.channel).2 = .item request) :
    x.move (.receive n) = some { x with
      bus := (x.bus.receiveRequest loop.channel).1
      jobs := x.jobs ++ [⟨server.registry, request⟩] } := by
  cases received : x.bus.receiveRequest loop.channel with
  | mk bus other =>
      rw [received] at got
      cases got
      simp [move, running, received]

end EventDispatch.Exchange
