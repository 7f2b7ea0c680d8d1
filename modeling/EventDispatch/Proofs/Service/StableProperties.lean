import EventDispatch.Proofs.Service.Progress
import EventDispatch.Proofs.Service.ScheduleIndependence
import EventDispatch.Proofs.Service.Quiescence
/-!
What an exchange keeps while events are processed.

Purpose: moves of servers and jobs, looks at requests and giving them up are all that happens in an
exchange while events are processed. What each of these keeps is kept by every event that is
processed: that nobody listens, that one server listens with its registry, and whose handlers the
jobs go to. Where nobody listens, an event is processed without any request being heard.

Main exports: `Exchange.Stable`, `Exchange.Stable.process`, `Exchange.Idle`, `Exchange.Deaf`,
`Exchange.Owned`, `Exchange.Serving`, `Exchange.process_deaf`.
-/

namespace EventDispatch

namespace Bus

theorem consumer_send (b : Bus) (r : Request) : (b.send r).1.consumer = b.consumer := by
  rcases b.send_cases r with ⟨_, sent⟩ | ⟨_, _, sent⟩ | ⟨n, _, _, _, sent⟩
  all_goals rw [sent]
  rfl

@[simp] theorem attended_send (b : Bus) (r : Request) (c : Nat) :
    (b.send r).1.requests.attended c = b.requests.attended c := by
  rcases b.send_cases r with ⟨_, sent⟩ | ⟨_, _, sent⟩ | ⟨n, _, _, _, sent⟩
  all_goals rw [sent]
  exact Channels.attended_send b.requests n c r

end Bus

/-- A request that nobody heard, with its outcome. -/
def Settled.unheard (q : Request) : Settled := ⟨q, .error ⟨q.id, .broker .noConsumer⟩⟩

/-- The pursuit of a request that nobody heard. -/
def Pursuit.unheard (q : Request) : Pursuit := ⟨q, .settled (Settled.unheard q).outcome⟩

namespace Exchange

variable {x y : Exchange}

/-- Two exchanges with the same servers, jobs and consumers; packets may have come and gone. -/
structure Alike (x y : Exchange) : Prop where
  servers : y.servers = x.servers
  jobs : y.jobs = x.jobs
  consumer : y.bus.consumer = x.bus.consumer
  attended : ∀ c, y.bus.requests.attended c = x.bus.requests.attended c

theorem alike_follow (x : Exchange) (request : Request) (w : Waiter) :
    Alike x (x.follow request w).1 := by
  have consumer := Bus.consumer_await x.bus w
  have requests := Bus.requests_await x.bus w
  unfold follow
  cases awaited : x.bus.await w with
  | mk bus result =>
      rw [awaited] at consumer requests
      cases result with
      | ok outcome => exact ⟨rfl, rfl, consumer, fun c => congrArg (·.attended c) requests⟩
      | error waiter => exact ⟨rfl, rfl, consumer, fun c => congrArg (·.attended c) requests⟩

theorem alike_look (x : Exchange) (p : Pursuit) : Alike x (x.look p).1 := by
  unfold look
  cases p.progress with
  | unsent =>
      have followed := alike_follow { x with bus := (x.bus.send p.request).1 } p.request
        { stream := (x.bus.send p.request).2 }
      exact ⟨followed.servers, followed.jobs, followed.consumer.trans (Bus.consumer_send _ _),
        fun c => (followed.attended c).trans (Bus.attended_send _ _ c)⟩
  | waiting w => exact alike_follow x p.request w
  | settled outcome => exact ⟨rfl, rfl, rfl, fun _ => rfl⟩

theorem alike_abandon (x : Exchange) (p : Pursuit) : Alike x (x.abandon p) := by
  unfold abandon
  cases p.progress with
  | unsent => exact ⟨rfl, rfl, rfl, fun _ => rfl⟩
  | waiting w =>
      exact ⟨rfl, rfl, Bus.consumer_drop _ _,
        fun c => congrArg (·.attended c) (Bus.requests_drop _ _)⟩
  | settled outcome => exact ⟨rfl, rfl, rfl, fun _ => rfl⟩

/-- A property that an exchange keeps whatever moves in it, and whoever looks at requests or gives
them up. -/
structure Stable (P : Exchange → Prop) : Prop where
  move : ∀ {x y : Exchange} {m : Move}, P x → x.move m = some y → P y
  alike : ∀ {x y : Exchange}, P x → Alike x y → P y

namespace Stable

variable {P : Exchange → Prop}

theorem moved (stable : Stable P) (holds : P x) (m : Move) : P ((x.move m).getD x) := by
  cases made : x.move m with
  | none => exact holds
  | some y => exact stable.move holds made

theorem turn (stable : Stable P) {ps : List Pursuit} (holds : P x) (t : Turn) :
    P (Exchange.turn (x, ps) t).1 := by
  cases t with
  | move m => exact stable.moved holds m
  | look n =>
      simp only [Exchange.turn]
      cases ps[n]? with
      | none => exact holds
      | some p => exact stable.alike holds (x.alike_look p)

theorem runTurns (stable : Stable P) {ps : List Pursuit} (holds : P x) (turns : List Turn) :
    P (Exchange.runTurns (x, ps) turns).1 := by
  induction turns generalizing x ps with
  | nil => exact holds
  | cons t rest inductionHypothesis => exact inductionHypothesis (stable.turn holds t)

theorem runSchedule (stable : Stable P) (holds : P x) (moves : List Move) :
    P (x.runSchedule moves) := by
  induction moves generalizing x with
  | nil => exact holds
  | cons m rest inductionHypothesis => exact inductionHypothesis (stable.moved holds m)

theorem settle (stable : Stable P) (holds : P x) : P x.settle := by
  obtain ⟨moves, schedule⟩ := x.settle_eq_runSchedule
  rw [schedule]
  exact stable.runSchedule holds moves

theorem advance (stable : Stable P) (holds : P x) (ps : List Pursuit) : P (x.advance ps).1 :=
  stable.runTurns (stable.settle (stable.runTurns holds _)) _

theorem abandonAll (stable : Stable P) (holds : P x) (ps : List Pursuit) : P (x.abandonAll ps) := by
  induction ps generalizing x with
  | nil => exact holds
  | cons p rest inductionHypothesis =>
      exact inductionHypothesis (stable.alike holds (x.alike_abandon p))

/-- Processing an event keeps what is stable. -/
theorem process (stable : Stable P) (holds : P x) (settings : MapperSettings) (fresh : Nat → String)
    (context : Context) (event : Json) : P (x.process settings fresh context event).1 := by
  unfold Exchange.process
  cases settings.dispatch fresh context event with
  | error e => exact holds
  | ok d => exact stable.abandonAll (stable.advance holds d.pursuits) _

end Stable

/-! ### Stable properties -/

/-- Nobody listens for requests. -/
def Deaf (x : Exchange) : Prop := x.bus.consumer = none

/-- No server has been added yet, and nobody listens. -/
structure Idle (x : Exchange) : Prop where
  servers : x.servers = []
  jobs : x.jobs = []
  deaf : x.Deaf

/-- Servers and jobs go to the handlers of one registry. -/
structure Owned (x : Exchange) (g : Registry) : Prop where
  servers : ∀ server ∈ x.servers, server.registry = g
  jobs : ∀ job ∈ x.jobs, job.registry = g

/-- There is one server; its loop runs, at a channel that is attended, and is the consumer. -/
structure Serving (x : Exchange) (g : Registry) (c : Nat) : Prop where
  servers : x.servers = [{ registry := g, loop := some { channel := c } }]
  consumer : x.bus.consumer = some c
  attended : x.bus.requests.attended c = true

variable {g : Registry} {c : Nat}

theorem stable_deaf : Stable Deaf where
  move := by
    intro x y m deaf moved
    rcases move_cases moved with
      ⟨n, server, loop, request, _, _, _, rfl⟩ | ⟨n, server, loop, _, _, _, rfl⟩ |
      ⟨j, job, response, _, _, _, rfl⟩ | ⟨j, job, _, _, _, rfl⟩
    · exact deaf
    · exact deaf
    · exact (Bus.consumer_publishResponse x.bus response).trans deaf
    · exact deaf
  alike := fun deaf same => same.consumer.trans deaf

/-- Without servers and jobs there are no moves. -/
theorem stable_idle : Stable Idle where
  move := by
    intro x y m idle moved
    rcases move_cases moved with
      ⟨n, server, loop, request, _, running, _⟩ | ⟨n, server, loop, _, running, _⟩ |
      ⟨j, job, response, _, found, _⟩ | ⟨j, job, _, found, _⟩
    · simp [runningLoop?_eq_some_iff, idle.servers] at running
    · simp [runningLoop?_eq_some_iff, idle.servers] at running
    · simp [idle.jobs] at found
    · simp [idle.jobs] at found
  alike := fun idle same => ⟨same.servers.trans idle.servers, same.jobs.trans idle.jobs,
    same.consumer.trans idle.deaf⟩

/-- A server hands its own registry to the jobs that it starts. -/
theorem stable_owned : Stable (Owned · g) where
  move := by
    intro x y m owned moved
    rcases move_cases moved with
      ⟨n, server, loop, request, _, running, _, rfl⟩ | ⟨n, server, loop, _, running, _, rfl⟩ |
      ⟨j, job, response, _, _, _, rfl⟩ | ⟨j, job, _, _, _, rfl⟩
    · obtain ⟨entry, _⟩ := runningLoop?_eq_some_iff.mp running
      refine ⟨owned.servers, ?_⟩
      intro job member
      rcases List.mem_append.mp member with before | new
      · exact owned.jobs job before
      · rw [List.mem_singleton.mp new]
        exact owned.servers server (List.mem_of_getElem? entry)
    · obtain ⟨entry, _⟩ := runningLoop?_eq_some_iff.mp running
      refine ⟨?_, owned.jobs⟩
      intro other member
      rcases List.mem_or_eq_of_mem_set member with before | rfl
      · exact owned.servers other before
      · exact owned.servers server (List.mem_of_getElem? entry)
    · exact ⟨owned.servers, fun job member => owned.jobs job (List.mem_of_mem_eraseIdx member)⟩
    · exact ⟨owned.servers, fun job member => owned.jobs job (List.mem_of_mem_eraseIdx member)⟩
  alike := fun owned same => ⟨same.servers ▸ owned.servers, same.jobs ▸ owned.jobs⟩

/-- The loop goes on, as its channel stays connected and it is not told to stop. -/
theorem stable_serving : Stable (Serving · g c) where
  move := by
    intro x y m serving moved
    have only : ∀ {n : Nat} {server : Server} {loop : Loop},
        x.runningLoop? n = some (server, loop) → server.stopped = false ∧ loop.channel = c := by
      intro n server loop running
      obtain ⟨entry, held, _⟩ := runningLoop?_eq_some_iff.mp running
      have member := List.mem_of_getElem? entry
      rw [serving.servers, List.mem_singleton] at member
      subst member
      cases held
      exact ⟨rfl, rfl⟩
    rcases move_cases moved with
      ⟨n, server, loop, request, _, _, _, rfl⟩ | ⟨n, server, loop, _, running, reason, rfl⟩ |
      ⟨j, job, response, _, _, _, rfl⟩ | ⟨j, job, _, _, _, rfl⟩
    · exact ⟨serving.servers, serving.consumer,
        (Bus.attended_receiveRequest x.bus _ _).trans serving.attended⟩
    · obtain ⟨willing, channel⟩ := only running
      rcases reason with stopped | disconnected
      · rw [willing] at stopped
        cases stopped
      · have replaced := (Bus.receiveRequest_eq_disconnected_iff.mp disconnected).2
        rw [channel] at replaced
        exact absurd serving.consumer replaced
    · exact ⟨serving.servers, (Bus.consumer_publishResponse x.bus response).trans serving.consumer,
        by simpa using serving.attended⟩
    · exact ⟨serving.servers, serving.consumer, serving.attended⟩
  alike := fun serving same => ⟨same.servers.trans serving.servers,
    same.consumer.trans serving.consumer, (same.attended c).trans serving.attended⟩

theorem Serving.hasConsumer (serving : x.Serving g c) : x.bus.hasConsumer = true := by
  simp [Bus.hasConsumer, serving.consumer, serving.attended]

theorem Serving.listening (serving : x.Serving g c) : x.Listening 0 g := by
  have running : x.runningLoop? 0 = some ({ registry := g, loop := some { channel := c } },
      { channel := c }) := runningLoop?_eq_some_iff.mpr ⟨by rw [serving.servers]; rfl, rfl, rfl⟩
  exact ⟨c, ⟨_, _, running, rfl, rfl, rfl⟩, serving.consumer⟩

/-! ### Processing where nobody listens -/

theorem look_deaf (deaf : x.Deaf) (q : Request) :
    x.look { request := q } = (x, .unheard q) := by
  have refused : x.bus.send q = (x.bus, ⟨q.id, .failed .noConsumer⟩) := by
    have nobody : x.bus.consumer = none := deaf
    rcases x.bus.send_cases q with ⟨_, sent⟩ | ⟨hears, _⟩ | ⟨n, hears, _⟩
    · exact sent
    · simp [Bus.hasConsumer, nobody] at hears
    · rw [nobody] at hears
      cases hears
  simp only [look, refused, follow, Bus.await_failed]
  rfl

/-- Looking at the pursuits behind some others, where no look changes the exchange. -/
theorem looks_of_steady {seen : Pursuit → Pursuit} (done : List Pursuit) {ps : List Pursuit}
    (steady : ∀ p ∈ ps, x.look p = (x, seen p)) :
    runTurns (x, done ++ ps) ((List.range' done.length ps.length).map .look)
      = (x, done ++ ps.map seen) := by
  -- What was looked at goes over to the front, so that the places of the rest stay the same.
  induction ps generalizing done with
  | nil => rfl
  | cons p rest inductionHypothesis =>
      have first : turn (x, done ++ p :: rest) (.look done.length)
          = (x, done ++ seen p :: rest) := by
        simp [turn, steady p List.mem_cons_self]
      have later := inductionHypothesis (done ++ [seen p])
        fun q member => steady q (List.mem_cons_of_mem p member)
      simp only [List.append_assoc, List.singleton_append, List.length_append,
        List.length_singleton] at later
      simp only [runTurns, List.length_cons, List.range'_succ, List.map_cons, List.foldl_cons,
        first]
      exact later

theorem lookAll_of_steady {ps : List Pursuit} (seen : Pursuit → Pursuit)
    (steady : ∀ p ∈ ps, x.look p = (x, seen p)) : x.lookAll ps = (x, ps.map seen) := by
  rw [lookAll, List.range_eq_range']
  exact looks_of_steady [] steady

/-- Where nobody listens, every request fails for want of a consumer. -/
theorem advance_deaf (deaf : x.Deaf) (requests : List Request) :
    x.advance (requests.map fun q => { request := q })
      = (x.settle, requests.map .unheard) := by
  have sent : x.lookAll (requests.map fun q => { request := q })
      = (x, requests.map .unheard) := by
    rw [lookAll_of_steady (fun p => .unheard p.request), List.map_map]
    · rfl
    · intro p member
      obtain ⟨q, _, rfl⟩ := List.mem_map.mp member
      exact look_deaf deaf q
  have again : x.settle.lookAll (requests.map .unheard)
      = (x.settle, requests.map .unheard) := by
    rw [lookAll_of_steady id, List.map_id]
    intro p member
    obtain ⟨q, _, rfl⟩ := List.mem_map.mp member
    rfl
  simp only [advance, sent, again]

end Exchange

/-- The result of an event of whose requests none is heard. -/
def MapperSettings.unheard (settings : MapperSettings) (fresh : Nat → String) (context : Context)
    (event : Json) : Except DispatchError Acknowledgement :=
  match settings.map fresh context event with
  | .error e => .error (.mapping e)
  | .ok mapped =>
    (mapped.responder.acknowledge (mapped.requests.map .unheard)).mapError .correlation

theorem Pursuit.allSettled?_unheard (requests : List Request) :
    allSettled? (requests.map unheard) = some (requests.map .unheard) := by
  rw [allSettled?_eq_some_iff, List.map_map, List.map_map]
  rfl

/-- Where nobody listens, an event is acknowledged as one whose requests have all failed. -/
theorem Exchange.process_deaf {x : Exchange} (deaf : x.Deaf) (settings : MapperSettings)
    (fresh : Nat → String) (context : Context) (event : Json) :
    (x.process settings fresh context event).2 = some (settings.unheard fresh context event) := by
  unfold process MapperSettings.dispatch MapperSettings.unheard
  cases settings.map fresh context event with
  | error e => rfl
  | ok mapped =>
      simp only [advance_deaf deaf, Dispatch.result?, Pursuit.allSettled?_unheard, Option.map_some]

end EventDispatch
