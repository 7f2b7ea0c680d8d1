import EventDispatch.Proofs.Broker.Consumers
import EventDispatch.Proofs.Broker.Subscriptions
import EventDispatch.Proofs.Service.Moves
/-!
Scenes: an exchange and everybody else who uses its broker.

Purpose: servers are added, listen, are closed and move, while others send requests over the same
broker, publish responses, look at their streams and give them up, attach consumers of their own or
close the broker. All of it happens in any order. In every scene that can be reached the
subscriptions are in order, and each running loop has a channel to itself, at which it is attended.

Main exports: `Scene`, `Scene.Act`, `Scene.next`, `Scene.of`, `Exchange.Orderly`, `Scene.Sound`,
`Scene.sound_of`.
-/

namespace EventDispatch

namespace Exchange

/-- Whether a channel is that of a running loop. Only the loop receives from it, or gives it up. -/
def owns (x : Exchange) (channel : Nat) : Bool :=
  x.servers.any fun server => server.loop.any fun loop => loop.running && loop.channel == channel

/-- Running loops attend channels of their own. -/
structure Orderly (x : Exchange) : Prop where
  attended : ∀ {n : Nat} {server : Server} {loop : Loop},
    x.runningLoop? n = some (server, loop) → x.bus.requests.attended loop.channel = true
  apart : ∀ {m n : Nat} {server other : Server} {loop second : Loop},
    x.runningLoop? m = some (server, loop) → x.runningLoop? n = some (other, second) →
    loop.channel = second.channel → m = n

end Exchange

/-- An exchange, with the streams that others hold over its bus. -/
structure Scene where
  exchange : Exchange := {}
  others : List (Option Stream) := []
deriving Inhabited

namespace Scene

/-- What can happen in a scene. -/
inductive Act where
  /-- A server is added. -/
  | serve (registry : Registry)
  | listen (server : Nat)
  | close (server : Nat)
  | move (move : Move)
  /-- Someone else uses the broker. -/
  | use (action : Broker.Action)
deriving Inhabited

/-- The broker as others see it. -/
def broker (s : Scene) : Broker := ⟨s.exchange.bus, s.others⟩

/-- The scene after an action of someone else, who has no access to the channels of the loops. -/
def used (s : Scene) (a : Broker.Action) : Scene :=
  if a.receiver?.any s.exchange.owns then s
  else
    { exchange := { s.exchange with bus := (s.broker.act a).1.bus }
      others := (s.broker.act a).1.streams }

/-- What follows an act; moves that are not possible are passed over. -/
def next (s : Scene) : Act → Scene
  | .serve g => { s with exchange := (s.exchange.addServer g).1 }
  | .listen n => { s with exchange := s.exchange.listen n }
  | .close n => { s with exchange := s.exchange.closeServer n }
  | .move m => { s with exchange := (s.exchange.move m).getD s.exchange }
  | .use a => s.used a

/-- The scene after acts in order, from the empty one. -/
def of (acts : List Act) : Scene := acts.foldl next {}

end Scene

namespace Exchange

variable {x y : Exchange}

theorem owns_of_runningLoop? {n : Nat} {server : Server} {loop : Loop}
    (running : x.runningLoop? n = some (server, loop)) : x.owns loop.channel = true := by
  obtain ⟨entry, held, runs⟩ := runningLoop?_eq_some_iff.mp running
  simp only [owns, List.any_eq_true]
  exact ⟨server, List.mem_of_getElem? entry, by simp [held, runs]⟩

namespace Orderly

theorem start : Orderly {} where
  attended := by
    intro n server loop running
    simp [runningLoop?_eq_some_iff] at running
  apart := by
    intro m n server other loop second running
    simp [runningLoop?_eq_some_iff] at running

/-- Loops that ran before, at channels that are still attended. -/
theorem of_older (orderly : x.Orderly)
    (older : ∀ {n : Nat} {server : Server} {loop : Loop},
      y.runningLoop? n = some (server, loop) →
      y.bus.requests.attended loop.channel = true ∧
        ∃ before, x.runningLoop? n = some (before, loop)) : y.Orderly where
  attended := by
    intro n server loop running
    exact (older running).1
  apart := by
    intro m n server other loop second first again same
    obtain ⟨_, _, firstBefore⟩ := older first
    obtain ⟨_, _, againBefore⟩ := older again
    exact orderly.apart firstBefore againBefore same

/-- The servers stay, and so do the channels of their loops. -/
theorem of_bus (orderly : x.Orderly) {bus : Bus}
    (attended : ∀ c, x.owns c = true → x.bus.requests.attended c = true →
      bus.requests.attended c = true) : Orderly { x with bus } := by
  apply orderly.of_older
  intro n server loop running
  have before : x.runningLoop? n = some (server, loop) := running
  exact ⟨attended _ (owns_of_runningLoop? before) (orderly.attended before), _, before⟩

/-- Jobs come and go without the loops. -/
theorem of_jobs (orderly : x.Orderly) {bus : Bus} (requests : bus.requests = x.bus.requests)
    (jobs : List Job) : Orderly { x with bus, jobs } := by
  apply orderly.of_older
  intro n server loop running
  refine ⟨?_, server, running⟩
  simp only [requests]
  exact orderly.attended running

theorem addServer (orderly : x.Orderly) (g : Registry) : (x.addServer g).1.Orderly := by
  apply orderly.of_older
  intro n server loop running
  obtain ⟨entry, held, runs⟩ := runningLoop?_eq_some_iff.mp running
  have before : x.servers[n]? = some server := by
    rcases Nat.lt_or_ge n x.servers.length with below | beyond
    · rw [← List.getElem?_append_left below]
      exact entry
    · simp only [Exchange.addServer, List.getElem?_append_right beyond,
        List.getElem?_singleton] at entry
      split at entry
      · cases entry
        exact absurd held (by simp)
      · exact absurd entry (by simp)
  have running := runningLoop?_eq_some_iff.mpr ⟨before, held, runs⟩
  exact ⟨orderly.attended running, _, running⟩

/-- A server is replaced by one whose loop, if it has one, does not run. -/
theorem of_halted (orderly : x.Orderly) {n : Nat} {server : Server} {bus : Bus}
    (halted : ∀ loop, server.loop = some loop → loop.running = false)
    (attended : ∀ {m : Nat} {other : Server} {loop : Loop}, m ≠ n →
      x.runningLoop? m = some (other, loop) → bus.requests.attended loop.channel = true) :
    Orderly { x with bus, servers := x.servers.set n server } := by
  apply orderly.of_older
  intro m other loop running
  obtain ⟨entry, held, runs⟩ := runningLoop?_eq_some_iff.mp running
  rw [List.getElem?_set] at entry
  by_cases place : n = m
  · rw [if_pos place] at entry
    split at entry
    · cases entry
      rw [halted loop held] at runs
      exact absurd runs (by simp)
    · exact absurd entry (by simp)
  · rw [if_neg place] at entry
    have before := runningLoop?_eq_some_iff.mpr ⟨entry, held, runs⟩
    exact ⟨attended (fun equal => place equal.symm) before, _, before⟩

/-- The channel of a loop that ends is no other loop's. -/
theorem endLoop (orderly : x.Orderly) {n : Nat} {server : Server} {loop : Loop}
    (running : x.runningLoop? n = some (server, loop)) : (x.endLoop n server loop).Orderly := by
  apply orderly.of_halted
  · rintro _ ⟨⟩
    rfl
  · intro m other second place runs
    simp only [Bus.releaseConsumer]
    rw [Channels.attended_release, if_neg (fun same => place (orderly.apart runs running same))]
    exact orderly.attended runs

theorem listen (orderly : x.Orderly) (n : Nat) : (x.listen n).Orderly := by
  unfold Exchange.listen
  split
  · exact orderly
  · rename_i server entry
    split
    · exact orderly
    · have fresh : ∀ {m : Nat} {other : Server} {loop : Loop},
          x.runningLoop? m = some (other, loop) → loop.channel ≠ x.bus.requests.length :=
        fun runs => Nat.ne_of_lt (Channels.lt_length_of_attended (orderly.attended runs))
      have older : ∀ {m : Nat} {other : Server} {loop : Loop} {bus : Bus},
          Exchange.runningLoop? { x with
            bus, servers := x.servers.set n { server with
              loop := some { channel := x.bus.requests.length } } } m = some (other, loop) →
          (m = n ∧ loop.channel = x.bus.requests.length) ∨
            x.runningLoop? m = some (other, loop) := by
        intro m other loop bus running
        obtain ⟨place, held, runs⟩ := runningLoop?_eq_some_iff.mp running
        rw [List.getElem?_set] at place
        split at place
        · rename_i same
          split at place
          · cases place
            cases held
            exact Or.inl ⟨same.symm, rfl⟩
          · exact absurd place (by simp)
        · exact Or.inr (runningLoop?_eq_some_iff.mpr ⟨place, held, runs⟩)
      constructor
      · intro m other loop running
        simp only [Bus.attach]
        rw [Channels.attended_append_new]
        split
        · rfl
        · rename_i differs
          rcases older running with ⟨_, new⟩ | before
          · exact absurd new differs
          · exact orderly.attended before
      · intro m k other third loop second first again same
        rcases older first with ⟨placeFirst, newFirst⟩ | before
        · rcases older again with ⟨placeAgain, _⟩ | beforeAgain
          · rw [placeFirst, placeAgain]
          · exact absurd (same.symm.trans newFirst) (fresh beforeAgain)
        · rcases older again with ⟨_, newAgain⟩ | beforeAgain
          · exact absurd (same.trans newAgain) (fresh before)
          · exact orderly.apart before beforeAgain same

theorem closeServer (orderly : x.Orderly) (n : Nat) : (x.closeServer n).Orderly := by
  unfold Exchange.closeServer
  split
  · exact orderly
  · rename_i server entry
    dsimp only
    split
    · rename_i loop held
      apply orderly.of_halted
      · rintro _ ⟨⟩
      · intro m other second place runs
        have attended := orderly.attended runs
        split
        · rename_i running
          have closing := runningLoop?_eq_some_iff.mpr ⟨entry, held, running⟩
          simp only [Bus.releaseConsumer]
          rw [Channels.attended_release,
            if_neg (fun same => place (orderly.apart runs closing same))]
          exact attended
        · exact attended
    · rename_i none
      apply orderly.of_halted
      · intro loop held
        simp only at held
        rw [none] at held
        exact absurd held (by simp)
      · intro m other second place runs
        exact orderly.attended runs

theorem move (orderly : x.Orderly) {m : Move} (moved : x.move m = some y) : y.Orderly := by
  rcases move_cases moved with
    ⟨n, server, loop, request, rfl, _, _, rfl⟩ | ⟨n, server, loop, rfl, running, _, rfl⟩ |
    ⟨j, job, response, rfl, found, _, rfl⟩ | ⟨j, job, rfl, found, _, rfl⟩
  · have kept : Orderly { x with bus := (x.bus.receiveRequest loop.channel).1 } := by
      apply orderly.of_bus
      intro c _ attended
      rw [Bus.attended_receiveRequest]
      exact attended
    exact kept.of_older fun runs => ⟨kept.attended runs, _, runs⟩
  · exact orderly.endLoop running
  · exact orderly.of_jobs (Bus.requests_publishResponse x.bus response) _
  · exact orderly.of_jobs rfl _

end Orderly
end Exchange

namespace Scene

/-- The subscriptions and the loops of a scene are in order. -/
structure Sound (s : Scene) : Prop where
  broker : s.broker.Sound
  orderly : s.exchange.Orderly

namespace Sound

variable {s : Scene}

/-- A move of the exchange is an action at the broker, or changes nothing for subscribers. -/
theorem broker_move (sound : s.broker.Sound) {m : Move} {y : Exchange}
    (moved : s.exchange.move m = some y) : Broker.Sound ⟨y.bus, s.others⟩ := by
  rcases Exchange.move_cases moved with
    ⟨n, server, loop, request, rfl, _, _, rfl⟩ | ⟨n, server, loop, rfl, _, _, rfl⟩ |
    ⟨j, job, response, rfl, _, _, rfl⟩ | ⟨j, job, rfl, _, _, rfl⟩
  · exact sound.of_subscribers_eq rfl rfl
  · exact sound.of_subscribers_eq rfl rfl
  · exact sound.respond response
  · exact sound

theorem broker_closeServer (sound : s.broker.Sound) (n : Nat) :
    Broker.Sound ⟨(s.exchange.closeServer n).bus, s.others⟩ := by
  unfold Exchange.closeServer
  split
  · exact sound
  · dsimp only
    split
    · split
      · exact sound.close.of_subscribers_eq rfl rfl
      · exact sound.close
    · exact sound.close

theorem used (sound : s.Sound) (a : Broker.Action) : (s.used a).Sound := by
  unfold Scene.used
  split
  · exact sound
  · rename_i foreign
    refine ⟨sound.broker.act a, ?_⟩
    apply sound.orderly.of_bus
    intro c owned attended
    refine Broker.attended_act ?_ attended
    intro receiver
    rw [receiver] at foreign
    exact foreign owned

theorem next (sound : s.Sound) (a : Act) : (s.next a).Sound := by
  cases a with
  | serve g => exact ⟨sound.broker, sound.orderly.addServer g⟩
  | listen n =>
      refine ⟨?_, sound.orderly.listen n⟩
      simp only [Scene.next, Exchange.listen]
      split
      · exact sound.broker
      · split
        · exact sound.broker
        · exact sound.broker.of_subscribers_eq rfl rfl
  | close n => exact ⟨broker_closeServer sound.broker n, sound.orderly.closeServer n⟩
  | move m =>
      simp only [Scene.next]
      cases moved : s.exchange.move m with
      | none => exact sound
      | some y => exact ⟨broker_move sound.broker moved, sound.orderly.move moved⟩
  | use a => exact sound.used a

end Sound

/-- Every scene that can be reached is sound. -/
theorem sound_of (acts : List Act) : (of acts).Sound := by
  suffices reached : ∀ s : Scene, s.Sound → (acts.foldl next s).Sound from
    reached {} ⟨Broker.Sound.start, Exchange.Orderly.start⟩
  induction acts with
  | nil =>
      intro s sound
      exact sound
  | cons a rest inductionHypothesis =>
      intro s sound
      exact inductionHypothesis (s.next a) (sound.next a)

end Scene
end EventDispatch
