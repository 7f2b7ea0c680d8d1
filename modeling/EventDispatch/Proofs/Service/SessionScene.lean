import EventDispatch.Proofs.Broker.Awaiting
import EventDispatch.Proofs.Broker.OtherUsers
import EventDispatch.Proofs.Service.SendAll
import EventDispatch.Proofs.Service.Session
import Mathlib.Data.List.Induction
/-!
The scene of a session.

Purpose: the requests of the events under way hold streams over the bus of the router. With these
the router's exchange is a scene, in which the router's own server is one like any other. However a
router is called, and whatever moves, is looked at or given up between the calls, the scene is
sound: the subscriptions are in order, and the loop of the server has its channel to itself.

Main exports: `Broker.Sound.look`, `Broker.Sound.abandonAll`, `Session.process_eq_acts`,
`Session.scene`, `Session.sound_of`.
-/

namespace EventDispatch

/-! ### Streams that come and go -/

namespace Broker.Sound

variable {bus : Bus} {streams before after : List (Option Stream)} {x : Exchange}

/-- Places without streams may be added. -/
theorem vacated (sound : Sound ⟨bus, streams⟩) (places : Nat) :
    Sound ⟨bus, streams ++ List.replicate places none⟩ := by
  induction places with
  | zero => simpa using sound
  | succ places inductionHypothesis =>
      rw [List.replicate_succ', ← List.append_assoc]
      exact inductionHypothesis.vacate

/-- A place whose stream is gone may go too. -/
theorem closed_up (sound : Sound ⟨bus, before ++ none :: after⟩) :
    Sound ⟨bus, before ++ after⟩ := by
  -- What stood behind the place moves up by one.
  have entry : ∀ n s, stream? ⟨bus, before ++ after⟩ n = some s ↔
      stream? ⟨bus, before ++ none :: after⟩ (if n < before.length then n else n + 1) = some s := by
    intro n s
    rw [stream?_eq_some_iff, stream?_eq_some_iff]
    split
    · rename_i below
      rw [List.getElem?_append_left below, List.getElem?_append_left below]
    · rename_i beyond
      have beyond := Nat.le_of_not_lt beyond
      rw [List.getElem?_append_right beyond,
        List.getElem?_append_right (Nat.le_succ_of_le beyond), Nat.succ_sub beyond,
        List.getElem?_cons_succ]
  refine sound.moved (fun n => if n < before.length then n else n + 1) ?_
    (fun live => (entry _ _).mp live) ?_
  · intro m n _ _ _ _ same
    split at same <;> split at same <;> omega
  · intro n s live
    rcases Nat.lt_trichotomy n before.length with below | same | beyond
    · exact ⟨n, (entry n s).mpr (by rw [if_pos below]; exact live)⟩
    · rw [same, stream?_eq_some_iff] at live
      simp at live
    · have places : (if n - 1 < before.length then n - 1 else n - 1 + 1) = n := by
        rw [if_neg (by omega), Nat.sub_add_cancel (by omega)]
      exact ⟨n - 1, (entry (n - 1) s).mpr (by rw [places]; exact live)⟩

/-- Following a stream keeps the subscriptions in order. -/
theorem follow {i : Nat} {w : Waiter} (sound : Sound ⟨x.bus, streams⟩)
    (place : streams[i]? = some (some w.stream)) (request : Request) :
    Sound ⟨(x.follow request w).1.bus, streams.set i (x.follow request w).2.stream?⟩ := by
  have live : stream? ⟨x.bus, streams⟩ i = some w.stream := stream?_eq_some_iff.mpr place
  have awaited := follow_keeps (P := Sound) (fun sound => sound.act _) (fun sound => sound.act _)
    (x.bus.buffered w.stream + 1) live sound
  unfold Exchange.follow Bus.await
  cases looked : x.bus.follow (x.bus.buffered w.stream + 1) w with
  | mk bus result =>
      rw [looked] at awaited
      cases result with
      | ok outcome => exact awaited
      | error waiter => exact awaited

/-- A look at a pursuit keeps the subscriptions in order, with the pursuit's stream in its place. -/
theorem look {i : Nat} {p : Pursuit} (sound : Sound ⟨x.bus, streams⟩)
    (place : streams[i]? = some p.stream?) :
    Sound ⟨(x.look p).1.bus, streams.set i (x.look p).2.stream?⟩ := by
  unfold Exchange.look
  cases progress : p.progress with
  | unsent =>
      have empty : streams[i]? = some none := by
        rw [place, Pursuit.stream?, progress]
      have sent : Sound ⟨(x.bus.send p.request).1, streams.set i (some (x.bus.send p.request).2)⟩ :=
        (sound.act (.send p.request)).handed_to empty
      have there : (streams.set i (some (x.bus.send p.request).2))[i]?
          = some (some (x.bus.send p.request).2) := by
        rw [List.getElem?_set_self (List.getElem?_eq_some_iff.mp empty).1]
      have followed := follow (x := { x with bus := (x.bus.send p.request).1 })
        (w := { stream := (x.bus.send p.request).2 }) sent there p.request
      rw [List.set_set] at followed
      exact followed
  | waiting w =>
      refine sound.follow ?_ p.request
      rw [place, Pursuit.stream?, progress]
  | settled outcome =>
      rw [set_same place]
      exact sound

/-- Giving up a pursuit leaves its place empty. -/
theorem abandon {i : Nat} {p : Pursuit} (sound : Sound ⟨x.bus, streams⟩)
    (place : streams[i]? = some p.stream?) : Sound ⟨(x.abandon p).bus, streams.set i none⟩ := by
  unfold Exchange.abandon
  have idle : p.stream? = none → Sound ⟨x.bus, streams.set i none⟩ := by
    intro none
    rw [← none, set_same place]
    exact sound
  cases progress : p.progress with
  | unsent => exact idle (by rw [Pursuit.stream?, progress])
  | settled outcome => exact idle (by rw [Pursuit.stream?, progress])
  | waiting w =>
      have live : stream? ⟨x.bus, streams⟩ i = some w.stream := by
        rw [stream?_eq_some_iff, place, Pursuit.stream?, progress]
      have dropped := sound.act (.drop i)
      simp only [Broker.act, live] at dropped
      exact dropped

/-- Giving up pursuits keeps the subscriptions in order without them. -/
theorem abandonAll {ps : List Pursuit}
    (sound : Sound ⟨x.bus, before ++ (ps.map Pursuit.stream? ++ after)⟩) :
    Sound ⟨(x.abandonAll ps).bus, before ++ after⟩ := by
  induction ps generalizing x with
  | nil => exact sound
  | cons p rest inductionHypothesis =>
      have left := sound.abandon (i := before.length) (p := p) (by simp)
      simp only [List.map_cons, List.cons_append, List.set_append_right _ _ (Nat.le_refl _),
        Nat.sub_self, List.set_cons_zero] at left
      exact inductionHypothesis left.closed_up

end Broker.Sound

/-- Going on until nothing moves is taking turns. -/
theorem Exchange.advance_eq_runTurns (x : Exchange) (ps : List Pursuit) :
    ∃ turns, x.advance ps = Exchange.runTurns (x, ps) turns := by
  obtain ⟨moves, schedule⟩ := (x.lookAll ps).1.settle_eq_runSchedule
  let looks (count : Nat) : List Turn := (List.range count).map .look
  refine ⟨looks ps.length ++ (moves.map .move ++ looks (x.lookAll ps).2.length), ?_⟩
  have settled : Exchange.runTurns (x.lookAll ps) (moves.map .move)
      = ((x.lookAll ps).1.settle, (x.lookAll ps).2) := by
    rw [schedule]
    exact runTurns_moves _ _ moves
  simp only [advance, runTurns, List.foldl_append] at settled ⊢
  simp only [lookAll, runTurns] at settled ⊢
  rw [settled]

/-- Running loops keep their channels whoever looks at requests or gives them up. -/
theorem Exchange.stable_orderly : Stable Orderly where
  move := fun orderly moved => orderly.move moved
  alike := by
    intro x y orderly same
    apply orderly.of_older
    intro n server loop running
    have before : x.runningLoop? n = some (server, loop) := by
      unfold runningLoop? at running ⊢
      rw [← same.servers]
      exact running
    exact ⟨(same.attended _).trans (orderly.attended before), server, before⟩

namespace Session

variable {settings : MapperSettings} {s : Session} {a : Act}

theorem of_concat (settings : MapperSettings) (acts : List Act) (a : Act) :
    of settings (acts ++ [a]) = (of settings acts).next a := by
  simp [of]

/-! ### An event from begin to end -/

/-- A turn that an event of the session takes. -/
def Act.ofTurn (event : Nat) : Turn → Act
  | .move m => .move m
  | .look i => .look event i

/-- The last event of a session takes turns. -/
theorem foldl_ofTurn (r : Router) (events : List Dispatch) (responder : Responder)
    (x : Exchange) (ps : List Pursuit) (turns : List Turn) :
    (turns.map (Act.ofTurn events.length)).foldl next
        ⟨{ r with exchange := x }, events ++ [⟨responder, ps⟩]⟩
      = ⟨{ r with exchange := (Exchange.runTurns (x, ps) turns).1 },
          events ++ [⟨responder, (Exchange.runTurns (x, ps) turns).2⟩]⟩ := by
  induction turns generalizing x ps with
  | nil => rfl
  | cons t rest inductionHypothesis =>
      have first : Session.next ⟨{ r with exchange := x }, events ++ [⟨responder, ps⟩]⟩
          (.ofTurn events.length t) = ⟨{ r with exchange := (Exchange.turn (x, ps) t).1 },
            events ++ [⟨responder, (Exchange.turn (x, ps) t).2⟩]⟩ := by
        cases t with
        | move m => rfl
        | look i => simp [next, Act.ofTurn]
      rw [List.map_cons, List.foldl_cons, first]
      exact inductionHypothesis _ _

/-- To process an event is to begin it, to take turns with it, and to give up what is left. -/
theorem process_eq_acts (s : Session) (fresh : Nat → String) (context : Context) (event : Json) :
    ∃ steps : List Act, (∀ a ∈ steps, a.Quiet) ∧
      s.next (.call (.process fresh context event)) = steps.foldl next s := by
  cases dispatched : s.router.settings.dispatch fresh context event with
  | error e =>
      refine ⟨[], by simp, ?_⟩
      simp [next, Router.call, Router.process, Exchange.process, dispatched]
  | ok d =>
      obtain ⟨turns, advanced⟩ := s.router.exchange.advance_eq_runTurns d.pursuits
      let place := s.events.length
      refine ⟨.begin fresh context event :: (turns.map (.ofTurn place) ++ [.giveUp place]), ?_, ?_⟩
      · intro a member
        simp only [List.mem_cons, List.mem_append, List.mem_map, List.not_mem_nil, or_false]
          at member
        rcases member with rfl | ⟨t, _, rfl⟩ | rfl
        · simp [Act.Quiet]
        · cases t <;> simp [Act.Quiet, Act.ofTurn]
        · simp [Act.Quiet]
      · have begun : s.next (.begin fresh context event)
            = ⟨{ s.router with exchange := s.router.exchange },
                s.events ++ [⟨d.responder, d.pursuits⟩]⟩ := by
          simp [next, dispatched]
        rw [List.foldl_cons, begun, List.foldl_append, foldl_ofTurn, ← advanced]
        simp [next, Router.call, Router.process, Exchange.process, dispatched, place,
          List.eraseIdx_append_of_length_le]

/-! ### The scene -/

/-- The streams of the events under way. -/
def streams (events : List Dispatch) : List (Option Stream) :=
  events.flatMap fun d => d.pursuits.map Pursuit.stream?

/-- The scene of a session: the router's exchange, with the streams of the events under way. -/
def scene (s : Session) : Scene := ⟨s.router.exchange, streams s.events⟩

theorem streams_event (before after : List Dispatch) (d : Dispatch) :
    streams (before ++ d :: after)
      = streams before ++ (d.pursuits.map Pursuit.stream? ++ streams after) := by
  simp [streams]

/-- An event under way stands between the ones before and after it. -/
theorem events_eq {events : List Dispatch} {n : Nat} {d : Dispatch} (place : events[n]? = some d) :
    ∃ before after, events = before ++ d :: after ∧
      (∀ e, events.set n e = before ++ e :: after) ∧ events.eraseIdx n = before ++ after := by
  obtain ⟨inRange, rfl⟩ := List.getElem?_eq_some_iff.mp place
  refine ⟨events.take n, events.drop (n + 1), ?_, ?_, List.eraseIdx_eq_take_drop_succ events n⟩
  · rw [List.getElem_cons_drop, List.take_append_drop]
  · intro e
    rw [List.set_eq_take_append_cons_drop, if_pos inRange]

/-- An act that is no call keeps the subscriptions in order. -/
theorem broker_next_of_quiet (sound : s.scene.broker.Sound) (quiet : a.Quiet) :
    (s.next a).scene.broker.Sound := by
  cases a with
  | call c => exact absurd rfl (quiet c)
  | move m =>
      simp only [next]
      cases moved : s.router.exchange.move m with
      | none => exact sound
      | some y => exact Scene.Sound.broker_move sound moved
  | begin fresh context event =>
      simp only [next]
      cases dispatched : s.router.settings.dispatch fresh context event with
      | error e => exact sound
      | ok d =>
          have idle : d.pursuits.map Pursuit.stream? = List.replicate d.pursuits.length none := by
            rw [MapperSettings.pursuits_of_dispatch dispatched]
            simp [Function.comp_def, Pursuit.stream?]
          simp only [scene, streams, List.flatMap_append, List.flatMap_singleton, idle]
          exact sound.vacated _
  | look n i =>
      simp only [next]
      cases event : s.events[n]? with
      | none => exact sound
      | some d =>
          cases place : d.pursuits[i]? with
          | none =>
              simp only [Exchange.turn, place]
              rw [Broker.set_same event]
              exact sound
          | some p =>
              obtain ⟨before, after, same, replaced, _⟩ := events_eq event
              have inRange : i < (d.pursuits.map Pursuit.stream?).length := by
                rw [List.length_map]
                exact (List.getElem?_eq_some_iff.mp place).1
              simp only [scene, Scene.broker, same, streams_event] at sound
              have looked := sound.look (i := (streams before).length + i) (p := p) (by
                rw [List.getElem?_append_right (Nat.le_add_right _ _), Nat.add_sub_cancel_left,
                  List.getElem?_append_left inRange, List.getElem?_map, place, Option.map_some])
              rw [List.set_append_right _ _ (Nat.le_add_right _ _), Nat.add_sub_cancel_left,
                List.set_append_left _ _ inRange, ← List.map_set] at looked
              simp only [Exchange.turn, place, replaced, scene, Scene.broker, streams_event]
              exact looked
  | giveUp n =>
      simp only [next]
      cases event : s.events[n]? with
      | none => exact sound
      | some d =>
          obtain ⟨before, after, same, _, removed⟩ := events_eq event
          simp only [scene, Scene.broker, same, streams_event] at sound
          simp only [removed, scene, Scene.broker, streams, List.flatMap_append]
          exact sound.abandonAll

/-- So does a call that is answered at once. -/
theorem sound_call (sound : s.scene.Sound) {c : Router.Call}
    (atOnce : ∀ fresh context event, c ≠ .process fresh context event) :
    (s.next (.call c)).scene.Sound := by
  have kept : ∀ {α : Type} (change : Registry → Registry × Except RegistryError α),
      (s.router.withRegistry change).1.exchange = s.router.exchange := by
    intro α change
    unfold Router.withRegistry
    cases s.router.phase <;> rfl
  cases c with
  | register pattern handler kind extras =>
      simp only [next, Router.call, Router.register, scene, kept]
      exact sound
  | registerGroup group =>
      simp only [next, Router.call, Router.registerGroup, scene, kept]
      exact sound
  | isRunning => exact sound
  | process fresh context event => exact absurd rfl (atOnce fresh context event)
  | start =>
      simp only [next, Router.call, Router.start, scene]
      cases s.router.phase with
      | building g => exact (sound.next (.serve g)).next (.listen _)
      | running n => exact sound
      | stopped => exact sound
  | shutdown =>
      simp only [next, Router.call, Router.shutdown, scene]
      cases s.router.phase with
      | building g => exact sound.next (.use .close)
      | running n => exact sound.next (.close n)
      | stopped => exact sound

/-- Every act keeps the scene sound. -/
theorem sound_next_of_quiet (sound : s.scene.Sound) (quiet : a.Quiet) :
    (s.next a).scene.Sound := by
  refine ⟨broker_next_of_quiet sound.broker quiet, ?_⟩
  obtain ⟨x, same, stays⟩ := s.router_next_of_quiet quiet
  have exchange : (s.next a).scene.exchange = x := congrArg Router.exchange same
  rw [exchange]
  exact stays Exchange.stable_orderly sound.orderly

theorem sound_next (sound : s.scene.Sound) (a : Act) : (s.next a).scene.Sound := by
  rcases a.call_or_quiet with ⟨c, rfl⟩ | quiet
  · by_cases atOnce : ∀ fresh context event, c ≠ .process fresh context event
    · exact sound_call sound atOnce
    · simp only [not_forall, not_not] at atOnce
      obtain ⟨fresh, context, event, rfl⟩ := atOnce
      obtain ⟨steps, quiet, same⟩ := process_eq_acts s fresh context event
      rw [same]
      clear same
      induction steps generalizing s with
      | nil => exact sound
      | cons a steps inductionHypothesis =>
          exact inductionHypothesis (sound_next_of_quiet sound (quiet a List.mem_cons_self))
            fun b member => quiet b (List.mem_cons_of_mem a member)
  · exact sound_next_of_quiet sound quiet

/-- The scene of every session that can be reached is sound. -/
theorem sound_of (settings : MapperSettings) (acts : List Act) :
    (of settings acts).scene.Sound := by
  induction acts using List.reverseRecOn with
  | nil => exact ⟨Broker.Sound.start, Exchange.Orderly.start⟩
  | append_singleton acts a inductionHypothesis =>
      rw [of_concat]
      exact sound_next inductionHypothesis a

end Session
end EventDispatch
