import EventDispatch.Proofs.Service.FailureReport
/-!
Registries in the place of others.

Purpose: an exchange has no other use for its registries than to handle requests. With registries
in their places that handle every request in the same way, all that happens is the same: the moves
that are possible, the bus, what pursuits come to, and what an event is acknowledged with. Each
operation is shown to go along with the exchange of registries, and so does every run.

Main exports: `Exchange.withRegistries`, `Exchange.move_withRegistries`,
`Exchange.process_withRegistries`, `Scene.Act.withRegistries`, `Scene.of_withRegistries`,
`Caller.after_withRegistries`, `Dispatch.resultAfter_withRegistries`.
-/

namespace EventDispatch

def Server.withRegistry (f : Registry → Registry) (server : Server) : Server :=
  { server with registry := f server.registry }

def Job.withRegistry (f : Registry → Registry) (job : Job) : Job :=
  { job with registry := f job.registry }

namespace Exchange

/-- The exchange with other registries in the places of the ones there. -/
def withRegistries (f : Registry → Registry) (x : Exchange) : Exchange :=
  { x with
    servers := x.servers.map (Server.withRegistry f)
    jobs := x.jobs.map (Job.withRegistry f) }

variable {f : Registry → Registry} {x : Exchange}

@[simp] theorem bus_withRegistries : (x.withRegistries f).bus = x.bus := rfl

theorem servers_withRegistries (n : Nat) :
    (x.withRegistries f).servers[n]? = (x.servers[n]?).map (Server.withRegistry f) :=
  List.getElem?_map

theorem jobs_withRegistries (n : Nat) :
    (x.withRegistries f).jobs[n]? = (x.jobs[n]?).map (Job.withRegistry f) :=
  List.getElem?_map

theorem runningLoop?_withRegistries (n : Nat) :
    (x.withRegistries f).runningLoop? n
      = (x.runningLoop? n).map fun p => (p.1.withRegistry f, p.2) := by
  simp only [runningLoop?, servers_withRegistries]
  cases x.servers[n]? with
  | none => rfl
  | some server =>
      obtain ⟨registry, stopped, loop⟩ := server
      cases loop with
      | none => rfl
      | some loop => cases running : loop.running <;> simp [Server.withRegistry, running]

/-- A server is put into the place of another one. -/
theorem set_withRegistries (bus : Bus) (n : Nat) (server : Server) :
    ({ x.withRegistries f with
        bus, servers := (x.withRegistries f).servers.set n (server.withRegistry f) } : Exchange)
      = withRegistries f { x with bus, servers := x.servers.set n server } := by
  simp [withRegistries, List.map_set]

theorem addServer_withRegistries (g : Registry) :
    ((x.withRegistries f).addServer (f g)).1 = (x.addServer g).1.withRegistries f := by
  simp [addServer, withRegistries, Server.withRegistry]

theorem listen_withRegistries (n : Nat) :
    (x.withRegistries f).listen n = (x.listen n).withRegistries f := by
  simp only [listen, servers_withRegistries]
  cases x.servers[n]? with
  | none => rfl
  | some server =>
      cases held : server.loop with
      | some loop => simp [Server.withRegistry, held]
      | none =>
          simp only [Option.map_some, Server.withRegistry, held]
          exact set_withRegistries _ n { server with loop := some _ }

theorem closeServer_withRegistries (n : Nat) :
    (x.withRegistries f).closeServer n = (x.closeServer n).withRegistries f := by
  simp only [closeServer, servers_withRegistries]
  cases x.servers[n]? with
  | none => rfl
  | some server =>
      cases held : server.loop with
      | none =>
          simp only [Option.map_some, Server.withRegistry, held]
          exact set_withRegistries _ n { registry := server.registry, stopped := true }
      | some loop =>
          simp only [Option.map_some, Server.withRegistry, held]
          exact set_withRegistries _ n { registry := server.registry, stopped := true }

/-- The same moves are possible, and lead to the same. -/
theorem move_withRegistries (same : ∀ g q, (f g).handle q = g.handle q) (m : Move) :
    (x.withRegistries f).move m = (x.move m).map (withRegistries f) := by
  cases m with
  | receive n =>
      simp only [move, runningLoop?_withRegistries]
      cases x.runningLoop? n with
      | none => rfl
      | some p =>
          simp only [Option.map_some, Option.bind_eq_bind, Option.bind_some]
          cases received : x.bus.receiveRequest p.2.channel with
          | mk bus got =>
              cases got with
              | item request =>
                  simp [received, withRegistries, Job.withRegistry, Server.withRegistry]
              | empty => simp [received]
              | disconnected => simp [received]
  | stop n =>
      simp only [move, runningLoop?_withRegistries]
      cases x.runningLoop? n with
      | none => rfl
      | some p =>
          simp only [Option.map_some, Option.bind_eq_bind, Option.bind_some, Option.map_if]
          congr 1
          simp only [Option.some.injEq, endLoop]
          exact set_withRegistries _ n { p.1 with loop := some _ }
  | finish j =>
      simp only [move, jobs_withRegistries]
      cases x.jobs[j]? with
      | none => rfl
      | some job =>
          simp only [Option.map_some, Option.bind_eq_bind, Option.bind_some, Job.withRegistry, same]
          cases job.registry.handle job.request with
          | answered response => simp [withRegistries, List.eraseIdx_map]
          | lost => simp [withRegistries, List.eraseIdx_map]
          | endless => rfl

theorem nextMove?_withRegistries (same : ∀ g q, (f g).handle q = g.handle q) :
    (x.withRegistries f).nextMove? = x.nextMove?.map (withRegistries f) := by
  have moves : (x.withRegistries f).loopMoves ++ (x.withRegistries f).jobMoves
      = x.loopMoves ++ x.jobMoves := by
    simp [loopMoves, jobMoves, withRegistries]
  unfold nextMove?
  rw [moves, funext (move_withRegistries same), List.map_findSome?]
  rfl

theorem moveOn_withRegistries (same : ∀ g q, (f g).handle q = g.handle q) (fuel : Nat) :
    (x.withRegistries f).moveOn fuel = (x.moveOn fuel).withRegistries f := by
  induction fuel generalizing x with
  | zero => rfl
  | succ fuel inductionHypothesis =>
      unfold moveOn
      rw [nextMove?_withRegistries same]
      cases x.nextMove? with
      | none => rfl
      | some y => exact inductionHypothesis

theorem settle_withRegistries (same : ∀ g q, (f g).handle q = g.handle q) :
    (x.withRegistries f).settle = x.settle.withRegistries f := by
  have left : (x.withRegistries f).movesLeft = x.movesLeft := by
    simp [movesLeft, withRegistries]
  unfold settle
  rw [left]
  exact moveOn_withRegistries same _

theorem follow_withRegistries (request : Request) (w : Waiter) :
    (x.withRegistries f).follow request w
      = Prod.map (withRegistries f) id (x.follow request w) := by
  simp only [follow, bus_withRegistries]
  cases x.bus.await w with
  | mk bus result => cases result <;> rfl

theorem look_withRegistries (p : Pursuit) :
    (x.withRegistries f).look p = Prod.map (withRegistries f) id (x.look p) := by
  unfold look
  cases p.progress with
  | unsent => exact follow_withRegistries (x := { x with bus := (x.bus.send p.request).1 }) _ _
  | waiting w => exact follow_withRegistries _ _
  | settled outcome => rfl

theorem abandonAll_withRegistries (ps : List Pursuit) :
    (x.withRegistries f).abandonAll ps = (x.abandonAll ps).withRegistries f := by
  apply List.foldl_hom
  intro y p
  unfold abandon
  cases p.progress <;> rfl

theorem turn_withRegistries (same : ∀ g q, (f g).handle q = g.handle q)
    (state : Exchange × List Pursuit) (t : Turn) :
    turn (Prod.map (withRegistries f) id state) t
      = Prod.map (withRegistries f) id (turn state t) := by
  obtain ⟨x, ps⟩ := state
  cases t with
  | move m =>
      simp only [turn, Prod.map, move_withRegistries same]
      cases x.move m <;> rfl
  | look n =>
      simp only [turn, Prod.map, id]
      cases ps[n]? with
      | none => rfl
      | some p => simp [look_withRegistries]

theorem runTurns_withRegistries (same : ∀ g q, (f g).handle q = g.handle q)
    (state : Exchange × List Pursuit) (turns : List Turn) :
    runTurns (Prod.map (withRegistries f) id state) turns
      = Prod.map (withRegistries f) id (runTurns state turns) := by
  apply List.foldl_hom
  exact turn_withRegistries same

theorem lookAll_withRegistries (same : ∀ g q, (f g).handle q = g.handle q) (ps : List Pursuit) :
    (x.withRegistries f).lookAll ps = Prod.map (withRegistries f) id (x.lookAll ps) :=
  runTurns_withRegistries same (x, ps) _

theorem advance_withRegistries (same : ∀ g q, (f g).handle q = g.handle q) (ps : List Pursuit) :
    (x.withRegistries f).advance ps = Prod.map (withRegistries f) id (x.advance ps) := by
  simp only [advance, lookAll_withRegistries same, Prod.map, settle_withRegistries same, id]

/-- An event comes to the same. -/
theorem process_withRegistries (same : ∀ g q, (f g).handle q = g.handle q)
    (settings : MapperSettings) (fresh : Nat → String) (context : Context) (event : Json) :
    (x.withRegistries f).process settings fresh context event
      = Prod.map (withRegistries f) id (x.process settings fresh context event) := by
  unfold process
  cases settings.dispatch fresh context event with
  | error e => rfl
  | ok d => simp [advance_withRegistries same, abandonAll_withRegistries]

theorem owns_withRegistries (channel : Nat) :
    (x.withRegistries f).owns channel = x.owns channel := by
  simp only [owns, withRegistries, List.any_map]
  rfl

end Exchange

namespace Scene

/-- The scene with other registries in the places of the ones there. -/
def withRegistries (f : Registry → Registry) (s : Scene) : Scene :=
  { s with exchange := s.exchange.withRegistries f }

/-- The act with another registry. -/
def Act.withRegistries (f : Registry → Registry) : Act → Act
  | .serve g => .serve (f g)
  | a => a

variable {f : Registry → Registry}

theorem used_withRegistries (s : Scene) (a : Broker.Action) :
    (s.withRegistries f).used a = (s.used a).withRegistries f := by
  have owns : (s.withRegistries f).exchange.owns = s.exchange.owns :=
    funext Exchange.owns_withRegistries
  simp only [used, owns]
  split <;> rfl

theorem next_withRegistries (same : ∀ g q, (f g).handle q = g.handle q) (s : Scene) (a : Act) :
    (s.withRegistries f).next (a.withRegistries f) = (s.next a).withRegistries f := by
  cases a with
  | serve g =>
      simp only [next, withRegistries, Act.withRegistries, Exchange.addServer_withRegistries]
  | listen n => simp only [next, withRegistries, Act.withRegistries, Exchange.listen_withRegistries]
  | close n =>
      simp only [next, withRegistries, Act.withRegistries, Exchange.closeServer_withRegistries]
  | move m =>
      simp only [next, withRegistries, Act.withRegistries, Exchange.move_withRegistries same]
      cases s.exchange.move m <;> rfl
  | use a => exact used_withRegistries s a

/-- Acts with other registries lead to the scene with these. -/
theorem of_withRegistries (same : ∀ g q, (f g).handle q = g.handle q) (acts : List Act) :
    of (acts.map (Act.withRegistries f)) = (of acts).withRegistries f := by
  unfold of
  rw [List.foldl_map]
  change acts.foldl (fun s a => s.next (a.withRegistries f)) (withRegistries f {}) = _
  apply List.foldl_hom
  exact next_withRegistries same

end Scene

namespace Caller

/-- The caller with other registries in the places of the ones there. -/
def withRegistries (f : Registry → Registry) (e : Caller) : Caller :=
  { e with scene := e.scene.withRegistries f }

/-- The turn with another registry. -/
def Turn.withRegistries (f : Registry → Registry) : Turn → Turn
  | .act a => .act (a.withRegistries f)
  | .look i => .look i

variable {f : Registry → Registry}

theorem turn_withRegistries (same : ∀ g q, (f g).handle q = g.handle q) (e : Caller) (t : Turn) :
    (e.withRegistries f).turn (t.withRegistries f) = (e.turn t).withRegistries f := by
  cases t with
  | act a => simp only [turn, withRegistries, Turn.withRegistries, Scene.next_withRegistries same]
  | look i =>
      have looked := Exchange.turn_withRegistries same (e.scene.exchange, e.pursuits) (.look i)
      simp only [Prod.map, id] at looked
      simp only [turn, withRegistries, Turn.withRegistries, Scene.withRegistries, looked]

/-- Pursuits come as far at every moment. -/
theorem after_withRegistries (same : ∀ g q, (f g).handle q = g.handle q) (e : Caller)
    (schedule : Nat → Turn) (k : Nat) :
    (e.withRegistries f).after (fun l => (schedule l).withRegistries f) k
      = (e.after schedule k).withRegistries f := by
  induction k with
  | zero => rfl
  | succ k inductionHypothesis =>
      simp only [after, inductionHypothesis]
      exact turn_withRegistries same _ _

end Caller

/-- An event under way comes to the same at every moment. -/
theorem Dispatch.resultAfter_withRegistries {f : Registry → Registry}
    (same : ∀ g q, (f g).handle q = g.handle q) (d : Dispatch) (s : Scene)
    (schedule : Nat → Caller.Turn) (k : Nat) :
    d.resultAfter (s.withRegistries f) (fun l => (schedule l).withRegistries f) k
      = d.resultAfter s schedule k := by
  have after := Caller.after_withRegistries same (d.caller s) schedule k
  have start : (d.caller s).withRegistries f = d.caller (s.withRegistries f) := rfl
  rw [start] at after
  simp only [resultAfter, after]
  rfl

end EventDispatch
