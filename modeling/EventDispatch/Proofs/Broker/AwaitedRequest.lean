import EventDispatch.Proofs.Broker.Awaiting
import EventDispatch.Proofs.Broker.OtherUsers
import EventDispatch.Proofs.Broker.Refusal
/-!
Someone waits while others go on.

Purpose: whoever sent a request that was accepted waits for its outcome, a stretch at a time, while
others use the broker. What is waited for is the outcome of the responses that are published for the
id in the meantime: the first error among those up to the terminal one, else the last value, once
there is a terminal one. When the broker is closed before that, the outcome is that the subscription
ended. Whoever has the outcome holds no subscription any more.

What carries the proof: what was taken from the channel and what waits there make up the responses
that are heard of those published.

Main exports: `Broker.Reserved`, `AwaitedRequest`, `AwaitedRequest.next`, `AwaitedRequest.of`,
`AwaitedRequest.published`, `AwaitedRequest.Waits`, `AwaitedRequest.Watching`,
`AwaitedRequest.Watching.after`, `AwaitedRequest.Quiet`, `AwaitedRequest.Answered`,
`AwaitedRequest.outcome_of_published`.
-/

namespace EventDispatch

namespace Broker

/-- No action takes a channel away. -/
theorem length_responses_act (b : Broker) (a : Action) :
    b.bus.responses.length ≤ (b.act a).1.bus.responses.length := by
  cases a with
  | send r =>
      rcases Bus.send_cases b.bus r with ⟨_, result⟩ | ⟨_, _, result⟩ | ⟨_, _, _, _, result⟩ <;>
        simp [act, result, Bus.accept]
  | respond r =>
      simp only [act, Bus.publishResponse]
      split
      · exact Nat.le_refl _
      · dsimp only
        split <;> simp [Channels.send]
  | poll n =>
      cases live : b.stream? n with
      | none => simp [act, live]
      | some s =>
          have kept : ∀ c, (b.bus.receiveResponse c).1.responses.length
              = b.bus.responses.length := by
            intro c
            simp only [Bus.receiveResponse, Channels.receive]
            split <;> simp
          simp only [act, live]
          rcases Bus.poll_cases b.bus s with ⟨_, same, _⟩ | ⟨c, _, looked⟩
          · rw [same]
          · rcases looked with
              ⟨_, _, _, ⟨_, result⟩ | ⟨_, result⟩⟩ | ⟨_, ⟨_, result⟩ | ⟨_, result⟩⟩ <;>
              simp [result, Bus.releaseSubscriber, Channels.release, kept]
  | drop n =>
      cases live : b.stream? n with
      | none => simp [act, live]
      | some s =>
          cases state : s.state <;>
            simp [act, live, Bus.drop, state, Bus.releaseSubscriber, Bus.unsubscribe,
              Channels.release]
  | _ => exact Nat.le_refl _

/-- A channel is there that only the stream at a place follows, if any does. -/
structure Reserved (b : Broker) (n c : Nat) : Prop where
  sound : b.Sound
  born : c < b.bus.responses.length
  alone : ∀ {m : Nat} {s : Stream}, b.stream? m = some s → s.state = .following c → m = n

namespace Reserved

variable {b : Broker} {n c : Nat}

theorem act (reserved : b.Reserved n c) (a : Action) : (b.act a).1.Reserved n c where
  sound := reserved.sound.act a
  born := Nat.lt_of_lt_of_le reserved.born (length_responses_act b a)
  alone := by
    intro m s live following
    rcases following_act live following with before | ⟨_, new, _⟩
    · exact reserved.alone before following
    · exact absurd new (Nat.ne_of_lt reserved.born)

/-- Once the stream is gone, nobody holds the channel. -/
theorem released (reserved : b.Reserved n c) (gone : b.stream? n = none) :
    b.bus.subscriberHeld c = false := by
  cases held : b.bus.subscriberHeld c with
  | false => rfl
  | true =>
      obtain ⟨id, member⟩ := Bus.subscriberHeld_iff.mp held
      obtain ⟨m, s, live, _, following⟩ :=
        reserved.sound.owner (reserved.sound.sorted.find?_of_mem member)
      rw [reserved.alone live following, gone] at live
      exact absurd live (by simp)

end Reserved
end Broker

/-- A broker over which someone has sent a request and waits for its outcome. -/
structure AwaitedRequest where
  broker : Broker
  /-- The place of the stream of the request. -/
  place : Nat
  /-- The id of the request. -/
  id : String
  /-- The one who waits, or the outcome. -/
  waiting : Except Waiter Outcome
  /-- The responses that were published for the id since, until the broker was closed or the wait
  was disturbed. -/
  answers : List Response := []
  /-- Whether the broker was closed since. -/
  closed : Bool := false
  /-- Whether someone gave up another unfinished stream with the id since. -/
  disturbed : Bool := false
deriving Inhabited

namespace AwaitedRequest

open Broker (Action Run)
open Response (heard settled finalOutcome)

/-- Someone sends a request and begins to wait. -/
def begin (b : Broker) (q : Request) : AwaitedRequest where
  broker := (b.act (.send q)).1
  place := b.streams.length
  id := q.id
  waiting := .error { stream := (b.bus.send q).2 }

/-- What can happen. -/
inductive Act where
  /-- Others use the broker. -/
  | others (action : Action)
  /-- The one who waits goes on, for so many looks at most. -/
  | resume (looks : Nat)
deriving Inhabited

/-- The response that an action publishes for an id. -/
def answer? (id : String) : Action → Option Response
  | .respond r => if r.id = id then some r else none
  | _ => none

/-- Whether an action closes the broker. -/
def closes : Action → Bool
  | .close => true
  | _ => false

/-- Whether an action gives up an unfinished stream with the id that is waited for. -/
def disturbs (v : AwaitedRequest) : Action → Bool
  | .drop n => (v.broker.stream? n).any fun s => s.unfinished && s.id == v.id
  | _ => false

/-- What follows an act. The stream belongs to the one who waits: what others would do to it is
passed over. -/
def next (v : AwaitedRequest) : Act → AwaitedRequest
  | .others a =>
    if (a.without v.place).isNone then v
    else
      { v with
        broker := (v.broker.act a).1
        answers :=
          if v.closed || v.disturbed then v.answers else v.answers ++ (answer? v.id a).toList
        closed := v.closed || closes a
        disturbed := v.disturbed || v.disturbs a }
  | .resume looks => match v.waiting with
    | .ok _ => v
    | .error w =>
      { v with
        broker := ⟨(v.broker.bus.follow looks w).1,
          v.broker.streams.set v.place (Waiter.kept (v.broker.bus.follow looks w).2)⟩
        waiting := (v.broker.bus.follow looks w).2 }

/-- The number of responses that the one who waits has yet to read. -/
def unread (v : AwaitedRequest) : Nat :=
  match v.waiting with
  | .ok _ => 0
  | .error w => v.broker.bus.buffered w.stream

/-- What acts in order lead to. -/
def after (v : AwaitedRequest) (acts : List Act) : AwaitedRequest := acts.foldl next v

/-- What acts in order lead to, from the moment at which a request is sent after a run. -/
def of (actions : List Action) (q : Request) (acts : List Act) : AwaitedRequest :=
  (begin (Run.of actions).broker q).after acts

/-- The responses that are published for an id before the broker is closed. -/
def published (id : String) : List Act → List Response
  | [] => []
  | .resume _ :: acts => published id acts
  | .others a :: acts =>
    if closes a then [] else (answer? id a).toList ++ published id acts

/-- How far someone has come who waits at a channel: what was taken and what is unread make up what
is heard of the responses that were published. -/
structure Waits (c : Nat) (v : AwaitedRequest) (w : Waiter) : Prop where
  stream : w.stream = ⟨v.id, .following c⟩
  live : v.broker.stream? v.place = some ⟨v.id, .following c⟩
  reached : ∃ taken : List Response, (∀ r ∈ taken, r.error = none ∧ r.terminal = false) ∧
    w.last = (taken.filterMap (·.value)).getLastD .null ∧
    taken ++ v.broker.bus.unread ⟨v.id, .following c⟩ = heard v.answers
  served : v.broker.bus.serves ⟨v.id, .following c⟩
    = !(v.closed || v.disturbed || v.answers.any (·.terminal))

/-- What was got is the outcome of the responses that were published, and the stream is gone. -/
structure Returned (v : AwaitedRequest) (result : Outcome) : Prop where
  gone : v.broker.stream? v.place = none
  due : (settled v.answers || v.closed || v.disturbed) = true
  outcome : result = finalOutcome v.id v.answers

/-- Someone waits at a channel that nobody else follows. -/
structure Watching (c : Nat) (v : AwaitedRequest) : Prop where
  reserved : v.broker.Reserved v.place c
  inRange : v.place < v.broker.streams.length
  waits : ∀ {w : Waiter}, v.waiting = .error w → v.Waits c w
  returned : ∀ {result : Outcome}, v.waiting = .ok result → v.Returned result

variable {v : AwaitedRequest} {c : Nat}

/-! ### What others do -/

theorem next_others_own {a : Action} (own : a.without v.place = none) :
    v.next (.others a) = v := by
  simp [next, own]

theorem next_resume_ok {result : Outcome} (got : v.waiting = .ok result) (looks : Nat) :
    v.next (.resume looks) = v := by
  simp [next, got]

theorem next_others {a a' : Action} (elsewhere : a.without v.place = some a') :
    v.next (.others a) =
      { v with
        broker := (v.broker.act a).1
        answers :=
          if v.closed || v.disturbed then v.answers else v.answers ++ (answer? v.id a).toList
        closed := v.closed || closes a
        disturbed := v.disturbed || v.disturbs a } := by
  simp [next, elsewhere]

namespace Waits

variable {w : Waiter} {a a' : Action}

/-- Responses arrive at the channel as they are published, while the subscription lasts. -/
theorem go_on (waits : v.Waits c w) (arrived : List Response) {d : Broker}
    {answers : List Response} {closed disturbed : Bool}
    (live : d.stream? v.place = some ⟨v.id, .following c⟩)
    (published : heard answers = heard v.answers ++ arrived)
    (unread : d.bus.unread ⟨v.id, .following c⟩
      = v.broker.bus.unread ⟨v.id, .following c⟩ ++ arrived)
    (served : d.bus.serves ⟨v.id, .following c⟩
      = !(closed || disturbed || answers.any (·.terminal))) :
    Waits c { v with broker := d, answers, closed, disturbed } w := by
  obtain ⟨taken, interim, last, split⟩ := waits.reached
  refine ⟨waits.stream, live, ⟨taken, interim, last, ?_⟩, served⟩
  rw [unread, published, ← split, List.append_assoc]

/-- A response that is published arrives if it is for the id and the subscription lasts. -/
theorem respond (waits : v.Waits c w) (sound : v.broker.Sound) (r : Response) :
    (v.next (.others (.respond r))).Waits c w := by
  rw [next_others rfl]
  have live : (v.broker.act (.respond r)).1.stream? v.place = some ⟨v.id, .following c⟩ :=
    waits.live
  have served : (v.broker.act (.respond r)).1.bus.serves ⟨v.id, .following c⟩ = _ :=
    sound.serves_respond waits.live r
  have unread : (v.broker.act (.respond r)).1.bus.unread ⟨v.id, .following c⟩ = _ :=
    sound.unread_respond waits.live r
  rw [waits.served] at served unread
  by_cases same : v.id = r.id
  · have answer : answer? v.id (.respond r) = some r := if_pos same.symm
    rw [answer]
    rw [decide_eq_true same, Bool.true_and] at served
    simp only [same, and_true] at unread
    rw [← same] at unread
    cases cut : v.closed || v.disturbed with
    | true =>
        rw [cut] at served unread
        refine waits.go_on [] live ?_ ?_ ?_
        · simp
        · simpa using unread
        · simpa [cut, closes, disturbs] using served
    | false =>
        rw [cut] at served unread
        cases answered : v.answers.any (·.terminal) with
        | true =>
            rw [answered] at served unread
            refine waits.go_on [] live ?_ ?_ ?_
            · simp [Response.heard_concat, answered]
            · simpa using unread
            · simpa [answered] using served
        | false =>
            rw [answered] at served unread
            refine waits.go_on [r] live ?_ ?_ ?_
            · simp [Response.heard_concat, answered]
            · simpa using unread
            · simpa [cut, answered, closes, disturbs] using served
  · have answer : answer? v.id (.respond r) = none := if_neg fun equal => same equal.symm
    refine waits.go_on [] live ?_ ?_ ?_
    · simp [answer]
    · simpa [same] using unread
    · simpa [same, answer, closes, disturbs] using served

/-- Someone gives up another stream, which ends the subscription if it has the id and is
unfinished. -/
theorem drop (waits : v.Waits c w) (sound : v.broker.Sound) {n : Nat} (other : n ≠ v.place) :
    (v.next (.others (.drop n))).Waits c w := by
  have elsewhere : Action.without v.place (.drop n) = some (.drop (Broker.lowered v.place n)) :=
    if_neg other
  rw [next_others elsewhere]
  cases live : v.broker.stream? n with
  | none =>
      have nothing : (v.broker.act (.drop n)).1 = v.broker := by simp [Broker.act, live]
      rw [nothing]
      refine waits.go_on [] waits.live ?_ ?_ ?_
      · simp [answer?]
      · simp
      · simpa [live, answer?, closes, disturbs] using waits.served
  | some s =>
      obtain ⟨still, unread, served⟩ := sound.left_by_drop live waits.live other
      have disturbed : v.disturbs (.drop n) = (decide (v.id = s.id) && s.unfinished) := by
        simp only [disturbs, live, Option.any_some]
        rw [Bool.and_comm, Bool.beq_comm]
        rfl
      rw [waits.served, ← disturbed] at served
      refine waits.go_on [] still ?_ ?_ ?_
      · simp [answer?]
      · simpa using unread
      · rw [served]
        cases v.disturbs (.drop n) <;> simp [answer?, closes]

/-- What others do brings the responses that they publish, and may end the subscription. -/
theorem others (waits : v.Waits c w) (sound : v.broker.Sound)
    (elsewhere : a.without v.place = some a') : (v.next (.others a)).Waits c w := by
  -- What neither publishes for the id nor ends the subscription leaves the stream as it was.
  have untouched : Broker.Untouched v.broker (v.broker.act a).1 v.place ⟨v.id, .following c⟩ →
      answer? v.id a = none → closes a = false → v.disturbs a = false →
      (v.next (.others a)).Waits c w := by
    rintro ⟨live, unread, served⟩ silent open_ kept
    rw [next_others elsewhere, silent, open_, kept]
    refine waits.go_on [] live ?_ ?_ ?_
    · simp
    · simpa using unread
    · rw [served, waits.served]
      simp
  cases a with
  | respond r => exact waits.respond sound r
  | drop n =>
      have other : n ≠ v.place := by
        intro same
        simp [Action.without, same] at elsewhere
      exact waits.drop sound other
  | close =>
      rw [next_others elsewhere]
      refine waits.go_on [] waits.live ?_ ?_ ?_
      · simp [answer?]
      · exact (List.append_nil _).symm
      · simp [closes, Broker.act, Bus.serves, Bus.close, Bus.clearPending]
  | poll n =>
      have other : n ≠ v.place := by
        intro same
        simp [Action.without, same] at elsewhere
      apply untouched _ rfl rfl rfl
      apply sound.untouched_act waits.live <;> simp [other]
  | _ =>
      apply untouched _ rfl rfl rfl
      apply sound.untouched_act waits.live <;> simp

end Waits

/-- Once there is an outcome, responses that are published later make no difference to it. -/
theorem Returned.others {result : Outcome} (returned : v.Returned result) {a a' : Action}
    (inRange : v.place < v.broker.streams.length) (elsewhere : a.without v.place = some a') :
    (v.next (.others a)).Returned result := by
  have gone := (Broker.stays_elsewhere inRange elsewhere).1.trans returned.gone
  rw [next_others elsewhere]
  cases cut : v.closed || v.disturbed with
  | true =>
      refine ⟨gone, ?_, returned.outcome⟩
      simp only [if_true]
      rcases Bool.or_eq_true_iff.mp cut with closed | disturbed
      · simp [closed]
      · simp [disturbed]
  | false =>
      have due := returned.due
      rw [Bool.or_assoc, cut, Bool.or_false] at due
      obtain ⟨still, same⟩ :=
        Response.finalOutcome_append due v.id (answer? v.id a).toList
      refine ⟨gone, ?_, ?_⟩
      · simp [still]
      · rw [returned.outcome, ← same]
        rfl

/-- What others do leaves the one who waits, or has the outcome, with it. -/
theorem Watching.others (watching : v.Watching c) {a a' : Action}
    (elsewhere : a.without v.place = some a') : (v.next (.others a)).Watching c := by
  have sound := watching.reserved.sound
  have waiting : (v.next (.others a)).waiting = v.waiting := by rw [next_others elsewhere]
  refine ⟨?_, ?_, ?_, ?_⟩
  · rw [next_others elsewhere]
    exact watching.reserved.act a
  · rw [next_others elsewhere]
    exact Broker.length_streams_act watching.inRange a
  · intro w waits
    exact (watching.waits (waiting ▸ waits)).others sound elsewhere
  · intro result got
    exact (watching.returned (waiting ▸ got)).others watching.inRange elsewhere

/-! ### Waiting on -/

/-- What waits comes to what all that was published comes to. -/
theorem Waits.collapse_eq {w : Waiter} (waits : v.Waits c w) :
    Response.collapse v.id w.last (v.broker.bus.responses.waiting c)
      = if settled v.answers then .ok (finalOutcome v.id v.answers)
        else .error ((Response.values v.answers).getLastD .null) := by
  obtain ⟨taken, interim, last, split⟩ := waits.reached
  rw [Bus.unread_of_following rfl] at split
  rw [last, ← Response.collapse_append v.id interim, split, Response.collapse_heard,
    Response.collapse_eq_finalOutcome]

theorem Waits.held_eq {w : Waiter} (waits : v.Waits c w) (sound : v.broker.Sound) :
    v.broker.bus.subscriberHeld c
      = !(v.closed || v.disturbed || v.answers.any (·.terminal)) := by
  rw [← waits.served]
  exact Bool.eq_iff_iff.mpr (sound.held_iff_serves waits.live rfl)

/-- An outcome is due, and is the one of the responses that were published. -/
theorem Waits.arrived {w : Waiter} (waits : v.Waits c w) (sound : v.broker.Sound) {looks : Nat}
    {d : Bus} {result : Outcome}
    (followed : v.broker.bus.Followed ⟨v.id, .following c⟩ c w.last looks d (.ok result)) :
    (settled v.answers || v.closed || v.disturbed) = true ∧
      result = finalOutcome v.id v.answers := by
  have collapse := waits.collapse_eq
  cases followed with
  | arrived collapsed =>
      rw [collapsed] at collapse
      split at collapse
      · rename_i conclusive
        exact ⟨by simp [conclusive], Except.ok.inj collapse⟩
      · exact absurd collapse (by simp)
  | closed collapsed loose =>
      rw [collapsed] at collapse
      split at collapse
      · exact absurd collapse (by simp)
      · rename_i unsettled
        obtain ⟨harmless, pending⟩ :=
          Response.settled_eq_false_iff.mp (Bool.not_eq_true _ ▸ unsettled)
        rw [waits.held_eq sound, pending, Bool.or_false] at loose
        constructor
        · rw [Bool.not_eq_false'] at loose
          rw [Bool.or_assoc, loose, Bool.or_true]
        · simp [Response.finalOutcome, harmless, pending]

/-- Whoever waits on has taken interim responses, and leaves the others for later. -/
theorem Waits.went_on {w x : Waiter} (waits : v.Waits c w)
    (inRange : v.place < v.broker.streams.length) {looks : Nat} {d : Bus}
    (followed : v.broker.bus.Followed ⟨v.id, .following c⟩ c w.last looks d (.error x))
    (waiting : Except Waiter Outcome) :
    Waits c { v with broker := ⟨d, v.broker.streams.set v.place (some x.stream)⟩, waiting } x := by
  obtain ⟨before, harmless, last, split⟩ := waits.reached
  cases followed with
  | going taken interim subscriptions rest _ =>
      refine ⟨rfl, ?_, ⟨before ++ taken, ?_, ?_, ?_⟩, ?_⟩
      · rw [Broker.stream?_set _ inRange, if_pos rfl]
      · intro r member
        rcases List.mem_append.mp member with old | new
        · exact harmless r old
        · exact interim r new
      · rw [last]
        simp [List.getLastD_eq_getLast?, List.getLast?_append]
      · rw [Bus.unread_of_following rfl] at split ⊢
        rw [List.append_assoc, ← split, rest]
      · exact (Bus.serves_congr subscriptions _).trans waits.served

/-- A stretch of waiting leaves the one who waits waiting, or with the outcome. -/
theorem Watching.resume (watching : v.Watching c) (looks : Nat) :
    (v.next (.resume looks)).Watching c := by
  cases started : v.waiting with
  | ok result =>
      rw [next_resume_ok started]
      exact watching
  | error w =>
      have waits := watching.waits started
      obtain ⟨stream, last⟩ := w
      cases waits.stream
      have followed := Bus.followed (b := v.broker.bus) (s := ⟨v.id, .following c⟩) rfl looks last
      have reserved := Broker.follow_keeps (P := fun b => b.Reserved v.place c)
        (fun reserved => reserved.act (.poll v.place))
        (fun reserved => reserved.act (.drop v.place)) looks
        (w := ⟨⟨v.id, .following c⟩, last⟩) waits.live watching.reserved
      simp only [next, started]
      refine ⟨reserved, ?_, ?_, ?_⟩
      · simpa using watching.inRange
      · intro x more
        simp only at more
        rw [more] at followed ⊢
        exact waits.went_on watching.inRange followed _
      · intro result got
        simp only at got
        rw [got] at followed ⊢
        obtain ⟨due, outcome⟩ := waits.arrived watching.reserved.sound followed
        refine ⟨?_, due, outcome⟩
        rw [Broker.stream?_set _ watching.inRange, if_pos rfl]
        rfl

/-- Whatever happens, someone watches. -/
theorem Watching.next (watching : v.Watching c) (a : Act) : (v.next a).Watching c := by
  cases a with
  | resume looks => exact watching.resume looks
  | others a =>
      cases elsewhere : a.without v.place with
      | none =>
          rw [next_others_own elsewhere]
          exact watching
      | some a' => exact watching.others elsewhere

theorem Watching.after (watching : v.Watching c) (acts : List Act) :
    (v.after acts).Watching c := by
  induction acts generalizing v with
  | nil => exact watching
  | cons a rest inductionHypothesis => exact inductionHypothesis (watching.next a)

/-- Whoever has just sent a request that was accepted watches. -/
theorem watching_begin {b : Broker} (sound : b.Sound) {q : Request}
    (accepted : (b.bus.send q).2.state = .following c) : (begin b q).Watching c := by
  have sent : c = b.bus.responses.length ∧ ∃ consumer,
      b.bus.send q = (b.bus.accept consumer q, ⟨q.id, .following b.bus.responses.length⟩) := by
    rcases Bus.send_cases b.bus q with ⟨_, result⟩ | ⟨_, _, result⟩ | ⟨n, _, _, _, result⟩
    · rw [result] at accepted
      exact absurd accepted (by simp)
    · rw [result] at accepted
      exact absurd accepted (by simp)
    · rw [result] at accepted
      cases accepted
      exact ⟨rfl, n, result⟩
  obtain ⟨rfl, consumer, result⟩ := sent
  have broker : (begin b q).broker = ⟨b.bus.accept consumer q,
      b.streams ++ [some ⟨q.id, .following b.bus.responses.length⟩]⟩ := by
    simp [begin, Broker.act, result]
  refine ⟨⟨sound.act (.send q), ?_, ?_⟩, ?_, ?_, ?_⟩
  · rw [broker]
    simp [Bus.accept]
  · intro n s live following
    rcases Broker.following_act live following with before | ⟨place, _⟩
    · exact absurd (sound.channel_lt_length before following) (Nat.lt_irrefl _)
    · exact place
  · simp [begin, Broker.act]
  · intro w waits
    have first : w = { stream := (b.bus.send q).2 } := (Except.error.inj waits).symm
    rw [result] at first
    refine ⟨by rw [first]; rfl, ?_, ⟨[], by simp, by rw [first]; rfl, ?_⟩, ?_⟩
    · rw [broker, Broker.stream?_append]
      exact if_pos rfl
    · rw [broker, Broker.Sound.unread_accept, Bus.unread_of_following rfl,
        Channels.waiting_of_length_le (Nat.le_refl _)]
      rfl
    · rw [broker, (Bus.serves_of_following rfl).mpr]
      · rfl
      · rw [Bus.find?_accept]
        exact if_pos rfl
  · intro result got
    exact absurd got (by simp [begin])

/-! ### Without disturbance -/

/-- As long as nothing has come to an end, no other stream with the id is unfinished, and nobody has
given one up. -/
def Quiet (v : AwaitedRequest) : Prop :=
  settled v.answers = false → v.closed = false →
    v.disturbed = false ∧
      ∀ n s, n ≠ v.place → v.broker.stream? n = some s → s.id = v.id → s.unfinished = false

/-- While nothing has come to an end, the id is taken. -/
theorem Watching.taken (watching : v.Watching c) (unsettled : settled v.answers = false)
    (open_ : v.closed = false) (undisturbed : v.disturbed = false) :
    (v.broker.bus.pending.find? v.id).any v.broker.bus.responses.attended = true := by
  cases started : v.waiting with
  | ok result =>
      have due := (watching.returned started).due
      rw [unsettled, open_, undisturbed] at due
      exact absurd due (by simp)
  | error w =>
      have served := (watching.waits started).served
      rw [open_, undisturbed, (Response.settled_eq_false_iff.mp unsettled).2] at served
      exact watching.reserved.sound.taken_of_pending ((Bus.serves_of_following rfl).mp served)

theorem Quiet.others (quiet : v.Quiet) (watching : v.Watching c) {a a' : Action}
    (elsewhere : a.without v.place = some a') : (v.next (.others a)).Quiet := by
  rw [next_others elsewhere]
  intro unsettled open_
  simp only at unsettled open_
  rw [Bool.or_eq_false_iff] at open_
  have before : settled v.answers = false := by
    cases conclusive : settled v.answers with
    | false => rfl
    | true =>
        have still := (Response.finalOutcome_append conclusive v.id (answer? v.id a).toList).1
        split at unsettled
        · rw [conclusive] at unsettled
          exact unsettled
        · rw [still] at unsettled
          exact unsettled
  obtain ⟨undisturbed, finished⟩ := quiet before open_.1
  have taken := watching.taken before open_.1 undisturbed
  refine ⟨?_, ?_⟩
  · simp only
    rw [undisturbed, Bool.false_or]
    cases a with
    | drop n =>
        have other : n ≠ v.place := by
          intro same
          simp [Action.without, same] at elsewhere
        cases live : v.broker.stream? n with
        | none => simp [disturbs, live]
        | some s =>
            have ended := finished n s other live
            by_cases same : s.id = v.id
            · simp [disturbs, live, ended same]
            · simp [disturbs, live, same]
    | _ => rfl
  · intro n s other live same
    simp only at other live same
    cases unfinished : s.unfinished with
    | false => rfl
    | true =>
        obtain ⟨d, following⟩ := Stream.unfinished_iff.mp unfinished
        rcases Broker.following_act live following with there | ⟨_, _, r, _, own, free⟩
        · have ended := finished n s other there same
          rw [ended] at unfinished
          exact unfinished.symm
        · rw [← own, same, taken] at free
          exact free

theorem Quiet.resume (quiet : v.Quiet) (watching : v.Watching c) (looks : Nat) :
    (v.next (.resume looks)).Quiet := by
  cases started : v.waiting with
  | ok result =>
      rw [next_resume_ok started]
      exact quiet
  | error w =>
      simp only [next, started]
      intro unsettled open_
      obtain ⟨undisturbed, finished⟩ := quiet unsettled open_
      refine ⟨undisturbed, ?_⟩
      intro n s other live
      rw [Broker.stream?_set _ watching.inRange, if_neg other] at live
      exact finished n s other live

theorem Quiet.after (quiet : v.Quiet) (watching : v.Watching c) (acts : List Act) :
    (v.after acts).Quiet := by
  induction acts generalizing v with
  | nil => exact quiet
  | cons a rest inductionHypothesis =>
      apply inductionHypothesis _ (watching.next a)
      cases a with
      | resume looks => exact quiet.resume watching looks
      | others a =>
          cases elsewhere : a.without v.place with
          | none =>
              rw [next_others_own elsewhere]
              exact quiet
          | some a' => exact quiet.others watching elsewhere

/-- Whoever sends a request whose id no unfinished stream has begins in quiet. -/
theorem quiet_begin {b : Broker} {q : Request}
    (unused : ∀ n s, b.stream? n = some s → s.id = q.id → s.unfinished = false) :
    (begin b q).Quiet := by
  intro _ _
  refine ⟨rfl, ?_⟩
  intro n s other live same
  rcases Broker.of_stream?_append live with ⟨place, _⟩ | ⟨_, before⟩
  · exact absurd place other
  · exact unused n s before same

/-! ### What is published -/

theorem disturbed_next (disturbed : v.disturbed = true) (a : Act) :
    (v.next a).disturbed = true := by
  cases a with
  | resume looks => cases started : v.waiting <;> simpa [next, started] using disturbed
  | others a => cases elsewhere : a.without v.place <;> simp [next, elsewhere, disturbed]

theorem disturbed_after (disturbed : v.disturbed = true) (acts : List Act) :
    (v.after acts).disturbed = true := by
  induction acts generalizing v with
  | nil => exact disturbed
  | cons a rest inductionHypothesis => exact inductionHypothesis (disturbed_next disturbed a)

theorem id_next (v : AwaitedRequest) (a : Act) : (v.next a).id = v.id := by
  cases a with
  | resume looks => cases started : v.waiting <;> simp [next, started]
  | others a => cases elsewhere : a.without v.place <;> simp [next, elsewhere]

theorem id_after (v : AwaitedRequest) (acts : List Act) : (v.after acts).id = v.id := by
  induction acts generalizing v with
  | nil => rfl
  | cons a rest inductionHypothesis => exact (inductionHypothesis (v.next a)).trans (id_next v a)

/-- One act brings what it publishes. -/
theorem answers_next (a : Act) (rest : List Act) (undisturbed : (v.next a).disturbed = false) :
    ((v.next a).answers ++ if (v.next a).closed then [] else published v.id rest)
      = v.answers ++ if v.closed then [] else published v.id (a :: rest) := by
  cases a with
  | resume looks => cases started : v.waiting <;> simp [next, started, published]
  | others a =>
      cases elsewhere : a.without v.place with
      | none =>
          -- What would be done to the stream itself publishes nothing and closes nothing.
          have silent : closes a = false ∧ answer? v.id a = none := by
            cases a <;> simp_all [Action.without, closes, answer?]
          simp [next, elsewhere, published, silent]
      | some a' =>
          have before : v.disturbed = false := by
            cases disturbed : v.disturbed with
            | false => rfl
            | true => exact (disturbed_next disturbed (.others a)).symm.trans undisturbed
          rw [next_others elsewhere]
          cases closed : v.closed with
          | true => simp
          | false =>
              cases closing : closes a with
              | false => simp [before, published, closing]
              | true =>
                  cases a <;> simp_all [closes, answer?, published]

/-- Unless the wait is disturbed, what is waited for is all that is published before the broker is
closed. -/
theorem answers_after (acts : List Act) (undisturbed : (v.after acts).disturbed = false) :
    (v.after acts).answers = v.answers ++ if v.closed then [] else published v.id acts := by
  induction acts generalizing v with
  | nil => simp [after, published]
  | cons a rest inductionHypothesis =>
      have first : (v.next a).disturbed = false := by
        cases disturbed : (v.next a).disturbed with
        | false => rfl
        | true => exact (disturbed_after disturbed rest).symm.trans undisturbed
      have later := inductionHypothesis undisturbed
      rw [id_next] at later
      exact later.trans (answers_next a rest first)

/-- What someone comes to who has waited for a time. -/
structure Answered (c : Nat) (v : AwaitedRequest) : Prop where
  /-- An outcome is the one of the responses that were published. -/
  outcome : ∀ {result : Outcome}, v.waiting = .ok result →
    result = finalOutcome v.id v.answers
  /-- With the outcome the stream is gone, and nobody holds its channel. -/
  released : ∀ {result : Outcome}, v.waiting = .ok result →
    v.broker.stream? v.place = none ∧ v.broker.bus.subscriberHeld c = false
  /-- Whoever goes on for long enough gets an outcome exactly if there is an error or a terminal
  response among those published, the broker was closed, or the wait was disturbed. -/
  returns : ∀ looks, v.unread < looks →
    ((∃ result, (v.next (.resume looks)).waiting = .ok result) ↔
      settled v.answers = true ∨ v.closed = true ∨ v.disturbed = true)

/-- Whoever goes on for long enough and gets nothing has no outcome due. -/
theorem Watching.undue (watching : v.Watching c) {looks : Nat} (enough : v.unread < looks)
    {x : Waiter} (more : (v.next (.resume looks)).waiting = .error x) :
    (settled v.answers || v.closed || v.disturbed) = false := by
  cases started : v.waiting with
  | ok result =>
      rw [next_resume_ok started, started] at more
      exact absurd more (by simp)
  | error w =>
      have waits := watching.waits started
      obtain ⟨stream, last⟩ := w
      cases waits.stream
      simp only [AwaitedRequest.next, started] at more
      simp only [unread, started, Bus.buffered_eq] at enough
      have result := Bus.follow_following (b := v.broker.bus) (s := ⟨v.id, .following c⟩) rfl last
        enough
      rw [more, waits.collapse_eq, waits.held_eq watching.reserved.sound] at result
      cases conclusive : settled v.answers with
      | true =>
          rw [conclusive] at result
          exact absurd result (by simp)
      | false =>
          rw [conclusive, (Response.settled_eq_false_iff.mp conclusive).2, Bool.or_false] at result
          cases cut : v.closed || v.disturbed with
          | true =>
              rw [cut] at result
              exact absurd result (by simp)
          | false =>
              rw [Bool.false_or]
              exact cut

theorem Watching.answered (watching : v.Watching c) : v.Answered c where
  outcome := fun got => (watching.returned got).outcome
  released := fun got =>
    ⟨(watching.returned got).gone, watching.reserved.released (watching.returned got).gone⟩
  returns := by
    intro looks enough
    have reason : (settled v.answers || v.closed || v.disturbed) = true ↔
        settled v.answers = true ∨ v.closed = true ∨ v.disturbed = true := by
      rw [Bool.or_eq_true, Bool.or_eq_true, or_assoc]
    have same : (v.next (.resume looks)).answers = v.answers ∧
        (v.next (.resume looks)).closed = v.closed ∧
        (v.next (.resume looks)).disturbed = v.disturbed := by
      cases started : v.waiting <;> simp [AwaitedRequest.next, started]
    rw [← reason]
    cases after : (v.next (.resume looks)).waiting with
    | ok result =>
        have due := ((watching.resume looks).returned after).due
        rw [same.1, same.2.1, same.2.2] at due
        simp [due]
    | error x => simp [watching.undue enough after]

/-- Whoever waits for the answer to an accepted request gets the outcome of the responses that are
published for it before the broker is closed, and holds no subscription then. Only another
unfinished stream with the same id can disturb this, and there is none if there was none at first.
-/
theorem outcome_of_published (actions : List Action) (q : Request)
    (accepted : ((Run.of actions).broker.bus.send q).2.state = .following c) (acts : List Act) :
    (of actions q acts).id = q.id ∧ (of actions q acts).Answered c ∧
      ((of actions q acts).disturbed = false →
        (of actions q acts).answers = published q.id acts) ∧
      ((∀ n s, (Run.of actions).broker.stream? n = some s → s.id = q.id → s.unfinished = false) →
        (of actions q acts).disturbed = true →
          settled (of actions q acts).answers = true ∨ (of actions q acts).closed = true) := by
  have watching := watching_begin (Run.balanced_of actions).sound accepted
  refine ⟨id_after _ acts, (watching.after acts).answered, ?_, ?_⟩
  · intro undisturbed
    exact answers_after acts undisturbed
  · intro unused disturbed
    have quiet := (quiet_begin unused).after watching acts
    cases conclusive : settled (of actions q acts).answers with
    | true => exact Or.inl rfl
    | false =>
        cases closed : (of actions q acts).closed with
        | true => exact Or.inr rfl
        | false =>
            have undisturbed := (quiet conclusive closed).1
            exact absurd (disturbed.symm.trans undisturbed) (by simp)

/-- A value arrives, then an error together with a value, then the terminal response. -/
def errorAheadOfAnswer : List Act :=
  [.others (.respond (.interim "a" (.bool false))), .resume 1,
    .others (.respond ⟨"a", some (.bool true), some ⟨.internal, "broken", none⟩, false⟩),
    .others (.respond (.reply "a" .null)), .resume 2, .others .close]

/-- The error is the outcome, and the channel is not held any more. -/
theorem error_ahead_of_answer :
    (of [.listen] { id := "a", pattern := .null } errorAheadOfAnswer).waiting
        = .ok (.error ⟨"a", .remote ⟨.internal, "broken", none⟩⟩) ∧
      (of [.listen] { id := "a", pattern := .null } errorAheadOfAnswer).Answered 0 :=
  ⟨rfl, (outcome_of_published [.listen] { id := "a", pattern := .null } rfl
    errorAheadOfAnswer).2.1⟩

end AwaitedRequest
end EventDispatch
