import EventDispatch.Proofs.Broker.RequestPlaces
import EventDispatch.Proofs.Service.Answering
import EventDispatch.Proofs.Service.Scene
/-!
Chronicles: scenes with the log of their broker.

Purpose: whatever happens in a scene is, for the broker, a few actions in order. A chronicle keeps
the log of these actions. Beside it, it remembers for each job which stream's request is handled,
and for each answer which stream's request was answered at which moment: the request goes from the
channel to the job, and from the job to its answer, together with the place of its stream.

Main exports: `Scene.deeds`, `Scene.broker_next`, `Chronicle`, `Chronicle.next`, `Chronicle.of`,
`Chronicle.run_next`.
-/

namespace EventDispatch

namespace Scene

/-- What a move does at the broker. -/
def moveDeeds (s : Scene) : Move → List Broker.Action
  | .receive n => (s.exchange.runningLoop? n).toList.map fun p => .receive p.2.channel
  | .stop n => (s.exchange.runningLoop? n).toList.map fun p => .leave p.2.channel
  | .finish j => (s.exchange.publishes? (.finish j)).toList.map .respond

/-- What an act does at the broker, in order. -/
def deeds (s : Scene) : Act → List Broker.Action
  | .serve _ => []
  | .listen n => if s.exchange.servers[n]?.any (·.loop.isNone) then [.listen] else []
  | .close n => match s.exchange.servers[n]? with
    | none => []
    | some server =>
      .close :: (server.loop.filter Loop.running).toList.map fun loop => .leave loop.channel
  | .move m => if (s.exchange.move m).isSome then s.moveDeeds m else []
  | .use a => if a.receiver?.any s.exchange.owns then [] else [a]

/-- An act leaves the broker as what it does there leaves it. -/
theorem broker_next (s : Scene) (log : Broker.Log) (a : Act) :
    (Broker.Run.extend ⟨s.broker, log⟩ (s.deeds a)).broker = (s.next a).broker := by
  cases a with
  | serve g => rfl
  | listen n =>
      simp only [deeds, next, Exchange.listen]
      cases entry : s.exchange.servers[n]? with
      | none => rfl
      | some server => cases held : server.loop <;> simp [held] <;> rfl
  | close n =>
      simp only [deeds, next, Exchange.closeServer]
      cases entry : s.exchange.servers[n]? with
      | none => rfl
      | some server =>
          obtain ⟨registry, stopped, loop⟩ := server
          cases loop with
          | none => rfl
          | some loop => cases running : loop.running <;> simp [running, Option.filter] <;> rfl
  | move m =>
      simp only [deeds, next]
      cases moved : s.exchange.move m with
      | none => rfl
      | some y =>
          rcases Exchange.move_cases moved with
            ⟨n, server, loop, request, rfl, running, _, rfl⟩ |
            ⟨n, server, loop, rfl, running, _, rfl⟩ |
            ⟨j, job, response, rfl, found, handled, rfl⟩ | ⟨j, job, rfl, found, handled, rfl⟩
          · simp [moveDeeds, running]; rfl
          · simp [moveDeeds, running]; rfl
          · simp [moveDeeds, Exchange.publishes?, Exchange.ends?, moved, found, Job.answer?,
              handled]
            rfl
          · simp [moveDeeds, Exchange.publishes?, Exchange.ends?, moved, found, Job.answer?,
              handled]
            rfl
  | use a =>
      simp only [deeds, next, used]
      split <;> rfl

end Scene

/-- A scene with the log of its broker, and with the origin of what is handled and answered. -/
structure Chronicle where
  scene : Scene := {}
  log : Broker.Log := []
  /-- For each job, the stream whose request it handles. -/
  handled : List Nat := []
  /-- The moment of each answer, with the stream whose request was answered. -/
  answers : List (Nat × Nat) := []
deriving Inhabited

namespace Chronicle

/-- The run of the broker. -/
def run (w : Chronicle) : Broker.Run := ⟨w.scene.broker, w.log⟩

/-- The stream whose request the loop of a server takes next. -/
def taken? (w : Chronicle) (n : Nat) : Option Nat :=
  (w.scene.exchange.runningLoop? n).bind fun p => (w.log.waiting p.2.channel).head?

/-- The moment at which a job publishes its answer, with the stream whose request is answered. -/
def answered? (w : Chronicle) (j : Nat) : Option (Nat × Nat) := do
  let _ ← w.scene.exchange.publishes? (.finish j)
  let n ← w.handled[j]?
  some (w.log.length, n)

/-- A chronicle goes on by an act. The stream goes along with its request from the channel to the
job and from the job to the answer. -/
def next (w : Chronicle) (a : Scene.Act) : Chronicle where
  scene := w.scene.next a
  log := (w.run.extend (w.scene.deeds a)).log
  handled := match a with
    | .move (.receive n) => w.handled ++ (w.taken? n).toList
    | .move (.finish j) =>
      if (w.scene.exchange.move (.finish j)).isSome then w.handled.eraseIdx j else w.handled
    | _ => w.handled
  answers := match a with
    | .move (.finish j) => w.answers ++ (w.answered? j).toList
    | _ => w.answers

/-- The chronicle of acts in order, from the start. -/
def of (acts : List Scene.Act) : Chronicle := acts.foldl next {}

theorem run_next (w : Chronicle) (a : Scene.Act) :
    (w.next a).run = w.run.extend (w.scene.deeds a) := by
  have broker := w.scene.broker_next w.log a
  simp only [run, next] at broker ⊢
  rw [← broker]

/-- A chronicle tells of the scene that the acts lead to. -/
theorem scene_of (acts : List Scene.Act) : (of acts).scene = Scene.of acts := by
  suffices along : ∀ w : Chronicle, (acts.foldl next w).scene = acts.foldl Scene.next w.scene from
    along {}
  induction acts with
  | nil => exact fun _ => rfl
  | cons a later inductionHypothesis => exact fun w => inductionHypothesis (w.next a)

end Chronicle
end EventDispatch
