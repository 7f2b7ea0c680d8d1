import EventDispatch.Proofs.Service.Scene
import EventDispatch.Service.Dispatch
/-!
A caller pursues requests in a scene.

Purpose: one caller pursues a list of requests side by side, while the scene goes on around it. What
happens next is a look at one of the pursuits or an act of the scene; an infinite schedule says it
for every moment. The outcome of a request that is handled on its own is given here too, apart from
any bus.

Main exports: `Caller`, `Caller.Turn`, `Caller.turn`, `Caller.after`, `Registry.outcome?`,
`Bus.await_failed`, `Bus.await_nothing`, `Bus.await_answered`.
-/

namespace EventDispatch

/-- The outcome of a request that is handled on its own, unless the handling is lost in a crash or
goes on without end. -/
def Registry.outcome? (g : Registry) (request : Request) : Option Outcome :=
  match g.resolve request.pattern with
  | .none => some (.error ⟨request.id, .remote .noHandlerQualified⟩)
  | .event _ => some (.error ⟨request.id, .remote .illegalEventHandler⟩)
  | .crashed => none
  | .message r =>
    match r.handler request with
    | .replied value => some (.ok value)
    | .failed error => some (.error ⟨request.id, .remote error.response⟩)
    | .answered error => some (.error ⟨request.id, .remote error⟩)
    | .crashed _ => some (.error ⟨request.id, .remote .internal⟩)
    | .crashedOnCall _ => none
    | .endless => none

/-- The outcome that a terminal response comes to when nothing came before it. -/
def Response.outcome (r : Response) : Outcome :=
  match r.error with
  | some e => .error ⟨r.id, .remote e⟩
  | none => .ok (r.value.getD .null)

theorem Registry.Answers.outcome {g : Registry} {request : Request} {response : Response}
    (answers : g.Answers request response) : g.outcome? request = some response.outcome := by
  cases answers with
  | unqualified nobody => simp [Registry.outcome?, nobody, Response.outcome, Response.failure]
  | event taken => simp [Registry.outcome?, taken, Response.outcome, Response.failure]
  | replied taken run => simp [Registry.outcome?, taken, run, Response.outcome, Response.reply]
  | failed taken run => simp [Registry.outcome?, taken, run, Response.outcome, Response.failure]
  | answered taken run => simp [Registry.outcome?, taken, run, Response.outcome, Response.failure]
  | crashed taken run => simp [Registry.outcome?, taken, run, Response.outcome, Response.failure]

namespace Bus

variable {b : Bus} {s : Stream} {c : Nat}

/-! ### Waiting for the answer -/

theorem await_failed (b : Bus) (id : String) (error : BrokerError) (last : Json) :
    b.await ⟨⟨id, .failed error⟩, last⟩ = (b, .ok (.error ⟨id, .broker error⟩)) := rfl

/-- A waiter whose stream is subscribed and has nothing to read waits on. -/
theorem await_nothing (following : s.state = .following c) (held : b.subscriberHeld c = true)
    (nothing : b.responses.waiting c = []) (last : Json) :
    b.await ⟨s, last⟩ = (b, .error ⟨s, last⟩) := by
  simp [await, follow, poll_following following, nothing, held]

/-- A waiter gets its outcome from a terminal response, and its channel goes. -/
theorem await_answered (following : s.state = .following c) {r : Response}
    (arrived : b.responses.waiting c = [r]) (terminal : r.terminal = true) (own : r.id = s.id) :
    b.await ⟨s, .null⟩ = ((b.receiveResponse c).1.releaseSubscriber c, .ok r.outcome) := by
  simp only [await, follow, poll_following following, arrived, terminal, if_true]
  unfold Response.outcome
  cases r.error with
  | none => rfl
  | some e => rw [own]; rfl

end Bus

/-- An event begins with pursuits that are not sent. -/
theorem MapperSettings.pursuits_of_dispatch {settings : MapperSettings} {fresh : Nat → String}
    {context : Context} {event : Json} {d : Dispatch}
    (dispatched : settings.dispatch fresh context event = .ok d) :
    d.pursuits = (d.pursuits.map Pursuit.request).map fun r => { request := r } := by
  unfold dispatch at dispatched
  split at dispatched
  · cases dispatched
    simp
  · cases dispatched

/-- The stream of a pursuit that waits. -/
def Pursuit.stream? (p : Pursuit) : Option Stream :=
  match p.progress with
  | .waiting waiter => some waiter.stream
  | _ => none

/-- A scene in which a caller pursues requests. -/
structure Caller where
  scene : Scene
  pursuits : List Pursuit
deriving Inhabited

namespace Caller

/-- What happens next. -/
inductive Turn where
  | look (pursuit : Nat)
  | act (act : Scene.Act)
deriving Inhabited

/-- The caller sets out: nothing is sent yet. -/
def start (s : Scene) (requests : List Request) : Caller :=
  ⟨s, requests.map fun r => { request := r }⟩

def turn (e : Caller) : Turn → Caller
  | .look i =>
    let (exchange, pursuits) := Exchange.turn (e.scene.exchange, e.pursuits) (.look i)
    ⟨{ e.scene with exchange }, pursuits⟩
  | .act a => { e with scene := e.scene.next a }

/-- The caller after the first turns of a schedule. -/
def after (e : Caller) (schedule : Nat → Turn) : Nat → Caller
  | 0 => e
  | k + 1 => (e.after schedule k).turn (schedule k)

/-- Everybody's view of the broker at once: the streams of the pursuits, in the places of the
requests, and then the streams of others. -/
def broker (e : Caller) : Broker :=
  ⟨e.scene.exchange.bus, e.pursuits.map Pursuit.stream? ++ e.scene.others⟩

variable {e : Caller} {i : Nat} {p : Pursuit}

theorem lt_length_of_pursuit (place : e.pursuits[i]? = some p) : i < e.pursuits.length :=
  (List.getElem?_eq_some_iff.mp place).1

theorem broker_stream?_pursuit (place : e.pursuits[i]? = some p) :
    e.broker.stream? i = p.stream? := by
  have inRange := lt_length_of_pursuit place
  simp only [broker, Broker.stream?]
  rw [List.getElem?_append_left (by simpa using inRange), List.getElem?_map, place]
  rfl

/-- A live stream is that of a pursuit, or someone else's. -/
theorem stream?_cases {n : Nat} {s : Stream} (live : e.broker.stream? n = some s) :
    (∃ p, e.pursuits[n]? = some p ∧ p.stream? = some s) ∨
      (e.pursuits.length ≤ n ∧ some s ∈ e.scene.others) := by
  rw [Broker.stream?_eq_some_iff] at live
  rcases Nat.lt_or_ge n e.pursuits.length with below | beyond
  · left
    simp only [broker] at live
    rw [List.getElem?_append_left (by simpa using below), List.getElem?_map,
      Option.map_eq_some_iff] at live
    exact live
  · right
    simp only [broker] at live
    rw [List.getElem?_append_right (by simpa using beyond)] at live
    exact ⟨beyond, List.mem_of_getElem? live⟩

theorem stream?_eq_some_iff {s : Stream} :
    p.stream? = some s ↔ ∃ last, p.progress = .waiting ⟨s, last⟩ := by
  unfold Pursuit.stream?
  cases progress : p.progress with
  | unsent => simp
  | settled outcome => simp
  | waiting waiter =>
      obtain ⟨stream, last⟩ := waiter
      simp

/-- A look at a pursuit, by what the exchange makes of it. -/
theorem turn_look (place : e.pursuits[i]? = some p) {x : Exchange} {q : Pursuit}
    (looked : e.scene.exchange.look p = (x, q)) :
    e.turn (.look i) = ⟨{ e.scene with exchange := x }, e.pursuits.set i q⟩ := by
  simp [turn, Exchange.turn, place, looked]

/-- A look that gives back what it was given changes nothing. -/
theorem turn_look_same (place : e.pursuits[i]? = some p)
    (looked : e.scene.exchange.look p = (e.scene.exchange, p)) : e.turn (.look i) = e := by
  rw [turn_look place looked, Broker.set_same place]

theorem look_settled {outcome : Outcome}
    (place : e.pursuits[i]? = some p) (progress : p.progress = .settled outcome) :
    e.turn (.look i) = e := by
  apply turn_look_same place
  simp [Exchange.look, progress]

theorem turn_look_of_none (absent : e.pursuits[i]? = none) : e.turn (.look i) = e := by
  simp [turn, Exchange.turn, absent]

theorem length_turn (e : Caller) (t : Turn) : (e.turn t).pursuits.length = e.pursuits.length := by
  cases t with
  | act a => rfl
  | look k =>
      cases place : e.pursuits[k]? with
      | none => rw [turn_look_of_none place]
      | some p =>
          cases looked : e.scene.exchange.look p with
          | mk x q =>
              rw [turn_look place looked]
              exact List.length_set

theorem length_after (e : Caller) (schedule : Nat → Turn) (k : Nat) :
    (e.after schedule k).pursuits.length = e.pursuits.length := by
  induction k with
  | zero => rfl
  | succ k inductionHypothesis => exact (length_turn _ _).trans inductionHypothesis

end Caller
end EventDispatch
