import EventDispatch.Proofs.Service.Quiescence
import EventDispatch.Proofs.Service.ScheduleIndependence
/-!
Sending requests over an exchange that keeps moving.

Purpose: `sendAll` looks at all pursuits, lets the exchange come to rest, and looks at them again.
Over a server that listens this is enough for every outcome: once the exchange is at rest nothing is
under way for the requests any more, so that every answer is there to be read.

Main exports: `Caller.through`, `Caller.sendAll_eq_through`, `Caller.Invariant.through`,
`Caller.Invariant.answered_at_rest`, `Caller.sendAll_right`, `Exchange.process_right`.
-/

namespace EventDispatch

theorem Exchange.runTurns_moves (x : Exchange) (pursuits : List Pursuit) (moves : List Move) :
    runTurns (x, pursuits) (moves.map .move) = (x.runSchedule moves, pursuits) := by
  induction moves generalizing x with
  | nil => rfl
  | cons m moves inductionHypothesis => exact inductionHypothesis ((x.move m).getD x)

namespace Caller

/-- The caller after turns of its exchange. -/
def through (e : Caller) (turns : List EventDispatch.Turn) : Caller :=
  ⟨{ e.scene with exchange := (Exchange.runTurns (e.scene.exchange, e.pursuits) turns).1 },
    (Exchange.runTurns (e.scene.exchange, e.pursuits) turns).2⟩

/-- A turn of the exchange as a turn of a caller. -/
def Turn.ofExchange : EventDispatch.Turn → Turn
  | .move m => .act (.move m)
  | .look i => .look i

theorem through_cons (e : Caller) (t : EventDispatch.Turn) (turns : List EventDispatch.Turn) :
    e.through (t :: turns) = (e.turn (.ofExchange t)).through turns := by
  cases t with
  | move m => rfl
  | look i => rfl

theorem length_through (e : Caller) (turns : List EventDispatch.Turn) :
    (e.through turns).pursuits.length = e.pursuits.length := by
  induction turns generalizing e with
  | nil => rfl
  | cons t turns inductionHypothesis =>
      rw [through_cons, inductionHypothesis]
      exact length_turn e _

/-- A look at each of so many pursuits, in order. -/
def looks (count : Nat) : List EventDispatch.Turn := (List.range count).map .look

theorem mem_looks {count i : Nat} : .look i ∈ looks count ↔ i < count := by
  simp [looks]

/-- Sending requests is a list of turns: looks at all pursuits, moves until the exchange is at rest,
and looks once more. -/
theorem sendAll_eq_through (s : Scene) (requests : List Request) :
    ∃ sent rested : Caller, ∃ moves : List Move,
      (start s requests).through (looks requests.length) = sent ∧
      sent.through (moves.map .move) = rested ∧ rested.pursuits = sent.pursuits ∧
      (∀ m, rested.scene.exchange.move m = none) ∧
      (s.exchange.sendAll requests).2 = (rested.through (looks requests.length)).pursuits := by
  have length : (start s requests).pursuits.length = requests.length := by simp [start]
  have first : s.exchange.lookAll (start s requests).pursuits =
      (((start s requests).through (looks requests.length)).scene.exchange,
        ((start s requests).through (looks requests.length)).pursuits) := by
    rw [Exchange.lookAll, length]
    rfl
  have count := (length_through (start s requests) (looks requests.length)).trans length
  generalize (start s requests).through (looks requests.length) = sent at first count
  obtain ⟨moves, schedule⟩ := Exchange.settle_eq_runSchedule sent.scene.exchange
  have moved := Exchange.runTurns_moves sent.scene.exchange sent.pursuits moves
  rw [← schedule] at moved
  have exchange : (sent.through (moves.map .move)).scene.exchange = sent.scene.exchange.settle :=
    congrArg Prod.fst moved
  have pursuits : (sent.through (moves.map .move)).pursuits = sent.pursuits :=
    congrArg Prod.snd moved
  refine ⟨sent, sent.through (moves.map .move), moves, rfl, rfl, pursuits, ?_, ?_⟩
  · intro m
    rw [exchange]
    exact Exchange.settle_rests _ m
  · calc (s.exchange.sendAll requests).2
        = ((s.exchange.lookAll (start s requests).pursuits).1.settle.lookAll
            (s.exchange.lookAll (start s requests).pursuits).2).2 := rfl
      _ = (sent.scene.exchange.settle.lookAll sent.pursuits).2 := by rw [first]
      _ = (Exchange.runTurns (sent.scene.exchange.settle, sent.pursuits)
            (looks requests.length)).2 := by rw [Exchange.lookAll, count, looks]
      _ = ((sent.through (moves.map .move)).through (looks requests.length)).pursuits := by
          rw [← exchange, ← pursuits]
          rfl

/-- A pursuit was sent and is not subscribed: it has its answer to read, or its outcome. -/
def Answered (e : Caller) (i : Nat) : Prop :=
  ∃ p, e.pursuits[i]? = some p ∧ p.progress ≠ .unsent ∧
    ∀ s, p.stream? = some s → e.scene.exchange.bus.serves s = false

namespace Invariant

variable {e : Caller} {n c : Nat} {g : Registry} {wanted : List Request}

theorem exists_pursuit (kept : e.Invariant n g c wanted) {i : Nat} (inRange : i < wanted.length) :
    ∃ p, e.pursuits[i]? = some p := by
  have length := congrArg List.length kept.requests
  rw [List.length_map] at length
  exact ⟨_, List.getElem?_eq_getElem (by omega)⟩

theorem turn_ofExchange (kept : e.Invariant n g c wanted) (settles : g.Settles wanted)
    (t : EventDispatch.Turn) : (e.turn (.ofExchange t)).Invariant n g c wanted := by
  cases t with
  | move m => exact kept.move settles m
  | look i => exact kept.look i

/-- Turns of the exchange keep what holds of a caller. -/
theorem through (kept : e.Invariant n g c wanted) (settles : g.Settles wanted)
    (turns : List EventDispatch.Turn) : (e.through turns).Invariant n g c wanted := by
  induction turns generalizing e with
  | nil => exact kept
  | cons t turns inductionHypothesis =>
      rw [through_cons]
      exact inductionHypothesis (kept.turn_ofExchange settles t)

/-- What turns of the exchange keep is there after any number of them. -/
theorem through_stays (settles : g.Settles wanted) {P : Caller → Prop}
    (stays : ∀ (e : Caller) (t : EventDispatch.Turn), e.Invariant n g c wanted → P e →
      P (e.turn (.ofExchange t)))
    (kept : e.Invariant n g c wanted) (there : P e) (turns : List EventDispatch.Turn) :
    P (e.through turns) := by
  induction turns generalizing e with
  | nil => exact there
  | cons t turns inductionHypothesis =>
      rw [through_cons]
      exact inductionHypothesis (kept.turn_ofExchange settles t) (stays e t kept there)

/-- What a look brings about is there after turns with such a look, if turns of the exchange keep it
and keep what the look needs. -/
theorem through_look (settles : g.Settles wanted) {i : Nat} {Q P : Caller → Prop}
    (keeps : ∀ (e : Caller) (t : EventDispatch.Turn), e.Invariant n g c wanted → Q e →
      Q (e.turn (.ofExchange t)))
    (look : ∀ e : Caller, e.Invariant n g c wanted → Q e → P (e.turn (.look i)))
    (stays : ∀ (e : Caller) (t : EventDispatch.Turn), e.Invariant n g c wanted → P e →
      P (e.turn (.ofExchange t)))
    (kept : e.Invariant n g c wanted) (needed : Q e) {turns : List EventDispatch.Turn}
    (looked : .look i ∈ turns) : P (e.through turns) := by
  induction turns generalizing e with
  | nil => cases looked
  | cons t turns inductionHypothesis =>
      rw [through_cons]
      have next := kept.turn_ofExchange settles t
      rcases List.mem_cons.mp looked with now | later
      · rw [← now] at next ⊢
        exact through_stays settles stays next (look e kept needed) turns
      · exact inductionHypothesis next (keeps e t kept needed) later

/-- A look at a pursuit leaves it sent. -/
theorem sent_by_look (kept : e.Invariant n g c wanted) {i : Nat} (inRange : i < wanted.length) :
    ∃ p, (e.turn (.look i)).pursuits[i]? = some p ∧ p.progress ≠ .unsent := by
  obtain ⟨p, place⟩ := kept.exists_pursuit inRange
  cases kept.phase place with
  | unsent progress => exact (kept.look_unsent place progress).2
  | asked progress _ served nothing =>
      rw [kept.look_asked place progress served nothing]
      exact ⟨p, place, by rw [progress]; simp⟩
  | answered progress own _ arrived answers =>
      exact ⟨_, (kept.look_answered place progress own arrived answers).2, by simp⟩
  | settled progress =>
      rw [look_settled place progress]
      exact ⟨p, place, by rw [progress]; simp⟩

/-- A pursuit that was sent is not unsent again. -/
theorem sent_turn (kept : e.Invariant n g c wanted) (t : Turn) {i : Nat}
    (sent : ∃ p, e.pursuits[i]? = some p ∧ p.progress ≠ .unsent) :
    ∃ p, (e.turn t).pursuits[i]? = some p ∧ p.progress ≠ .unsent := by
  obtain ⟨p, place, going⟩ := sent
  rcases kept.pursuit_turn t place with same | ⟨_, q, after, ⟨_, there⟩ | ⟨outcome, settled⟩⟩
  · exact ⟨p, same, going⟩
  · exact ⟨q, after, there⟩
  · exact ⟨q, after, by rw [settled]; simp⟩

/-- An answer that can be read is not lost by a turn of the exchange. -/
theorem answered_turn (kept : e.Invariant n g c wanted) (settles : g.Settles wanted)
    (t : EventDispatch.Turn) {i : Nat} (answered : e.Answered i) :
    (e.turn (.ofExchange t)).Answered i := by
  obtain ⟨p, place, going, unserved⟩ := answered
  rcases kept.pursuit_turn (.ofExchange t) place with
    same | ⟨_, q, after, ⟨unsent, _⟩ | ⟨outcome, settled⟩⟩
  · refine ⟨p, same, going, ?_⟩
    intro s waiting
    have consumer := (kept.turn_ofExchange settles t).attending.consumer
    rw [Bool.eq_false_iff]
    intro served
    have before := kept.serves_of_turn consumer place waiting served
    rw [unserved s waiting] at before
    exact absurd before (by simp)
  · exact absurd unsent going
  · refine ⟨q, after, by rw [settled]; simp, ?_⟩
    intro s waiting
    simp [Pursuit.stream?, settled] at waiting

/-- A look reads an answer that can be read. -/
theorem settled_by_look (kept : e.Invariant n g c wanted) {i : Nat} (answered : e.Answered i) :
    ∃ p outcome, (e.turn (.look i)).pursuits[i]? = some p ∧ p.progress = .settled outcome := by
  obtain ⟨p, place, going, unserved⟩ := answered
  cases kept.phase place with
  | unsent progress => exact absurd progress going
  | asked progress _ served =>
      rw [unserved _ (stream?_eq_some_iff.mpr ⟨_, progress⟩)] at served
      exact absurd served (by simp)
  | answered progress own _ arrived answers =>
      exact ⟨_, _, (kept.look_answered place progress own arrived answers).2, rfl⟩
  | settled progress =>
      rw [look_settled place progress]
      exact ⟨p, _, place, progress⟩

/-- When the exchange is at rest, nothing is under way for the ids of the requests. -/
theorem underWay_at_rest (kept : e.Invariant n g c wanted) (settles : g.Settles wanted)
    (rests : ∀ m, e.scene.exchange.move m = none) {id : String}
    (concerned : id ∈ wanted.map Request.id) : e.scene.exchange.underWay c id = [] := by
  rw [Exchange.underWay_eq_nil_iff]
  constructor
  · intro q waits _
    cases waiting : e.scene.exchange.bus.requests.waiting c with
    | nil =>
        rw [waiting] at waits
        cases waits
    | cons first rest =>
        have possible := (kept.receive_turn waiting).1
        rw [rests] at possible
        cases possible
  · intro job member same
    obtain ⟨response, handled, _⟩ := kept.answers_of_job settles member (same ▸ concerned)
    obtain ⟨j, found⟩ := List.mem_iff_getElem?.mp member
    have ends := Exchange.move_finish found handled
    rw [rests] at ends
    cases ends

/-- When the exchange is at rest, a pursuit that was sent has its answer. -/
theorem answered_at_rest (kept : e.Invariant n g c wanted) (settles : g.Settles wanted)
    (rests : ∀ m, e.scene.exchange.move m = none) {i : Nat}
    (sent : ∃ p, e.pursuits[i]? = some p ∧ p.progress ≠ .unsent) : e.Answered i := by
  obtain ⟨p, place, going⟩ := sent
  refine ⟨p, place, going, ?_⟩
  intro s waiting
  rw [Bool.eq_false_iff]
  intro served
  have once := (kept.phase place).underWay_of_serves waiting served
  rw [kept.underWay_at_rest settles rests (kept.id_mem place)] at once
  cases once

/-- Looks at all pursuits send them. -/
theorem sent_by_looks (kept : e.Invariant n g c wanted) (settles : g.Settles wanted) {i : Nat}
    (inRange : i < wanted.length) {turns : List EventDispatch.Turn} (looked : .look i ∈ turns) :
    ∃ p, (e.through turns).pursuits[i]? = some p ∧ p.progress ≠ .unsent :=
  through_look settles (Q := fun _ => True)
    (P := fun e => ∃ p, e.pursuits[i]? = some p ∧ p.progress ≠ .unsent)
    (fun _ _ _ _ => trivial) (fun _ kept _ => kept.sent_by_look inRange)
    (fun _ t kept sent => kept.sent_turn (.ofExchange t) sent) kept trivial looked

/-- Looks at all pursuits settle those that have their answers. -/
theorem settled_by_looks (kept : e.Invariant n g c wanted) (settles : g.Settles wanted) {i : Nat}
    (answered : e.Answered i) {turns : List EventDispatch.Turn} (looked : .look i ∈ turns) :
    ∃ p outcome, (e.through turns).pursuits[i]? = some p ∧ p.progress = .settled outcome :=
  through_look settles (Q := fun e => e.Answered i)
    (P := fun e => ∃ p outcome, e.pursuits[i]? = some p ∧ p.progress = .settled outcome)
    (fun _ t kept answered => kept.answered_turn settles t answered)
    (fun _ kept answered => kept.settled_by_look answered)
    (fun _ t kept settled =>
      settled.imp fun _ found => found.imp fun _ there =>
        ⟨kept.settled_turn (.ofExchange t) there.1 there.2, there.2⟩)
    kept answered looked

end Invariant

/-- Sending requests and going on as long as anything moves comes to all outcomes. They stand in the
order of the requests, and each is what its request comes to on its own, or the refusal of an id
that another request of the list has too. -/
theorem sendAll_right {s : Scene} {n : Nat} {g : Registry} {requests : List Request}
    (sound : s.Sound) (listening : s.exchange.Listening n g) (settles : g.Settles requests)
    (free : ∀ q ∈ requests, ¬ s.InFlight q.id) :
    ∃ results, Pursuit.allSettled? (s.exchange.sendAll requests).2 = some results ∧
      results.length = requests.length ∧
      ∀ i q, requests[i]? = some q →
        ∃ outcome, results[i]? = some ⟨q, outcome⟩ ∧ Right requests g i q outcome := by
  obtain ⟨c, runs, consumer⟩ := listening
  have kept := kept_start sound runs consumer free
  obtain ⟨sent, rested, moves, rfl, rfl, same, rests, final⟩ := sendAll_eq_through s requests
  have keptSent := kept.through settles (looks requests.length)
  have keptRested := keptSent.through settles (moves.map .move)
  have keptFinal := keptRested.through settles (looks requests.length)
  have every : ∀ p ∈ (s.exchange.sendAll requests).2, ∃ outcome, p.progress = .settled outcome := by
    intro p member
    rw [final] at member
    obtain ⟨i, place⟩ := List.mem_iff_getElem?.mp member
    have inRange : i < requests.length := by
      have below := lt_length_of_pursuit place
      simpa only [length_through, start, List.length_map] using below
    have asked := kept.sent_by_looks settles inRange (mem_looks.mpr inRange)
    rw [← same] at asked
    have answered := keptRested.answered_at_rest settles rests asked
    obtain ⟨q, outcome, there, progress⟩ :=
      keptRested.settled_by_looks settles answered (mem_looks.mpr inRange)
    rw [place] at there
    cases there
    exact ⟨outcome, progress⟩
  obtain ⟨results, settled⟩ := Pursuit.exists_allSettled? every
  refine ⟨results, settled, ?_⟩
  rw [final] at settled
  exact keptFinal.results settled

end Caller

/-- Processing an event over a server that listens comes to an acknowledgement of such outcomes. -/
theorem Exchange.process_right {s : Scene} {n : Nat} {g : Registry} {settings : MapperSettings}
    {fresh : Nat → String} {context : Context} {event : Json} {responder : Responder}
    {requests : List Request}
    (dispatched : settings.dispatch fresh context event
      = .ok ⟨responder, requests.map fun q => { request := q }⟩)
    (sound : s.Sound) (listening : s.exchange.Listening n g) (settles : g.Settles requests)
    (free : ∀ q ∈ requests, ¬ s.InFlight q.id) :
    ∃ results, (s.exchange.process settings fresh context event).2
        = some ((responder.acknowledge results).mapError .correlation) ∧
      results.length = requests.length ∧
      ∀ i q, requests[i]? = some q →
        ∃ outcome, results[i]? = some ⟨q, outcome⟩ ∧ Caller.Right requests g i q outcome := by
  obtain ⟨results, settled, right⟩ := Caller.sendAll_right sound listening settles free
  have advanced : Pursuit.allSettled?
      (s.exchange.advance (requests.map fun q => { request := q })).2 = some results := settled
  refine ⟨results, ?_, right⟩
  simp only [process, dispatched, Dispatch.result?, advanced, Option.map_some]

end EventDispatch
