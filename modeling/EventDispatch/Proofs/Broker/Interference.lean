import EventDispatch.Proofs.Broker.Ledger
/-!
What streams do to each other.

Purpose: looking at a stream touches no other one. Giving a stream up touches another one in one
case only: the stream is unfinished, although its own subscription is over, and the other one is by
now subscribed to the same id. A stream fails as closed only after its subscription was cut short,
by closing the broker or by giving up another unfinished stream with its id.

Main exports: `Broker.Untouched`, `Broker.Log.CutShort`, `Broker.Run.explained_of`,
`Broker.untouched_unless_successor`, `Broker.drop_disturbs_successor`.
-/

namespace EventDispatch.Broker

/-- A stream, its subscription and its unread responses are as they were. -/
def Untouched (before after : Broker) (n : Nat) (t : Stream) : Prop :=
  after.stream? n = some t ∧ after.bus.unread t = before.bus.unread t ∧
    after.bus.serves t = before.bus.serves t

namespace Sound

variable {b : Broker}

theorem untouched_poll (sound : b.Sound) {m n : Nat} {s t : Stream}
    (liveS : b.stream? m = some s) (liveT : b.stream? n = some t) (places : m ≠ n) :
    Untouched b (b.act (.poll m)).1 n t := by
  have differs : ¬ n = m := fun equal => places equal.symm
  simp only [Broker.act, liveS]
  refine ⟨?_, sound.unread_poll liveS liveT places, serves_poll b s t⟩
  rw [stream?_set _ (lt_length_of_stream? liveS), if_neg differs]
  exact liveT

/-- What is left of a stream when another one is given up. -/
theorem left_by_drop (sound : b.Sound) {m n : Nat} {s t : Stream}
    (liveS : b.stream? m = some s) (liveT : b.stream? n = some t) (places : m ≠ n) :
    (b.act (.drop m)).1.stream? n = some t ∧
      (b.act (.drop m)).1.bus.unread t = b.bus.unread t ∧
      (b.act (.drop m)).1.bus.serves t
        = (b.bus.serves t && !(decide (t.id = s.id) && s.unfinished)) := by
  have differs : ¬ n = m := fun equal => places equal.symm
  simp only [Broker.act, liveS]
  refine ⟨?_, sound.unread_drop liveS liveT places, serves_drop b s t⟩
  rw [stream?_set _ (lt_length_of_stream? liveS), if_neg differs]
  exact liveT

/-- A response for the id of a stream that is served reaches the stream, and no look at it fails. -/
theorem answered_while_served (sound : b.Sound) {n : Nat} {t : Stream}
    (liveT : b.stream? n = some t) (served : b.bus.serves t = true) :
    (∀ response : Response, response.id = t.id →
      (b.bus.publishResponse response).unread t = b.bus.unread t ++ [response]) ∧
    ∀ error, (b.bus.poll t).2.2 ≠ .failed error := by
  constructor
  · intro response same
    rw [sound.unread_respond liveT, if_pos ⟨served, same.symm⟩]
  · intro error failed
    rcases Bus.poll_cases b.bus t with ⟨finished, _⟩ | ⟨c, following, outcome⟩
    · rw [Bus.unfinished_of_serves served] at finished
      exact absurd finished (by simp)
    · rcases outcome with
        ⟨_, _, _, ⟨_, result⟩ | ⟨_, result⟩⟩ | ⟨_, ⟨_, result⟩ | ⟨loose, result⟩⟩
      · simp [result] at failed
      · simp [result] at failed
      · simp [result] at failed
      · rw [(sound.held_iff_serves liveT following).mpr served] at loose
        exact absurd loose (by simp)

/-- A look at an unfinished stream that is not served and has nothing left to read fails. -/
theorem fails_when_unserved (sound : b.Sound) {n : Nat} {t : Stream}
    (liveT : b.stream? n = some t) (unfinished : t.unfinished = true)
    (unserved : b.bus.serves t = false) (nothing : b.bus.unread t = []) :
    (b.bus.poll t).2.2 = .failed (.closed t.id) := by
  rcases Bus.poll_cases b.bus t with ⟨finished, _⟩ | ⟨c, following, outcome⟩
  · rw [unfinished] at finished
    exact absurd finished (by simp)
  · rw [Bus.unread_of_following following] at nothing
    rcases outcome with ⟨_, _, waiting, _⟩ | ⟨_, ⟨held, _⟩ | ⟨_, result⟩⟩
    · rw [nothing] at waiting
      exact absurd waiting (by simp)
    · rw [(sound.held_iff_serves liveT following).mp held] at unserved
      exact absurd unserved (by simp)
    · rw [result]

end Sound

namespace Log

/-- A stream's subscription was cut short: the broker was closed, or another unfinished stream with
the id was given up, while the stream was subscribed. -/
def CutShort (n : Nat) : Log → Prop
  | [] => False
  | .closed :: log => subscription n log ≠ none ∨ CutShort n log
  | .released m id :: log => (m ≠ n ∧ subscription n log = some id) ∨ CutShort n log
  | _ :: log => CutShort n log

theorem CutShort.cons {n : Nat} {log : Log} (cut : CutShort n log) (e : Event) :
    CutShort n (e :: log) := by
  cases e <;> simp [CutShort, cut]

end Log

namespace Run

/-- Every failure of a stream has its reason in the log. -/
structure Explained (r : Run) : Prop where
  balanced : r.Balanced
  /-- A stream that was refused was not refused as closed. -/
  refusal : ∀ {n : Nat} {s : Stream} {id : String}, r.broker.stream? n = some s →
    s.state ≠ .failed (.closed id)
  /-- An unfinished stream that is not served has been answered, or was cut short. -/
  unsubscribed : ∀ {n : Nat} {t : Stream}, r.broker.stream? n = some t → t.unfinished = true →
    r.broker.bus.serves t = false →
    (∃ x ∈ r.broker.bus.unread t, x.terminal = true) ∨ r.log.CutShort n
  /-- A stream that failed as closed was cut short. -/
  told : ∀ {n : Nat} {id : String}, .looked n (.failed (.closed id)) ∈ r.log → r.log.CutShort n

namespace Explained

variable {r : Run}

theorem start : Explained {} where
  balanced := .start
  refusal := by
    intro n s id live
    simp [stream?] at live
  unsubscribed := by
    intro n t live
    simp [stream?] at live
  told := by
    intro n id member
    simp at member

/-- An event that is no look keeps the reasons of the failures before it. -/
private theorem told_cons (explained : r.Explained) {e : Event}
    (silent : ∀ n p, e ≠ .looked n p) {n : Nat} {id : String}
    (member : .looked n (.failed (.closed id)) ∈ e :: r.log) : Log.CutShort n (e :: r.log) := by
  rcases List.mem_cons.mp member with now | before
  · exact absurd now.symm (silent _ _)
  · exact (explained.told before).cons e

/-- An action that leaves streams, subscriptions and unread responses. -/
private theorem of_subscribers_eq (explained : r.Explained) {bus : Bus} {e : Event}
    (balanced : Balanced ⟨{ r.broker with bus }, e :: r.log⟩)
    (pending : bus.pending = r.broker.bus.pending)
    (responses : bus.responses = r.broker.bus.responses) (silent : ∀ n p, e ≠ .looked n p) :
    Explained ⟨{ r.broker with bus }, e :: r.log⟩ where
  balanced := balanced
  refusal := explained.refusal
  unsubscribed := by
    intro n t live unfinished unserved
    rw [Bus.serves_congr pending] at unserved
    rw [Bus.unread_congr responses]
    exact (explained.unsubscribed live unfinished unserved).imp_right (·.cons e)
  told := explained.told_cons silent

theorem respond (explained : r.Explained) (response : Response) :
    (r.next (.respond response)).Explained where
  balanced := explained.balanced.next _
  refusal := explained.refusal
  unsubscribed := by
    intro n t live unfinished unserved
    have sound := explained.balanced.sound
    simp only [next, act] at live unserved ⊢
    rw [sound.serves_respond live] at unserved
    rw [sound.unread_respond live]
    cases served : r.broker.bus.serves t with
    | false =>
        simp only [Bool.false_eq_true, false_and, if_false]
        exact (explained.unsubscribed live unfinished served).imp_right (·.cons _)
    | true =>
        have ends : t.id = response.id ∧ response.terminal = true := by
          simpa [served] using unserved
        left
        exact ⟨response, by simp [ends.1], ends.2⟩
  told := explained.told_cons (fun _ _ => Event.noConfusion)

theorem close (explained : r.Explained) : (r.next .close).Explained where
  balanced := explained.balanced.next _
  refusal := explained.refusal
  unsubscribed := by
    intro n t live unfinished _
    cases served : r.broker.bus.serves t with
    | false => exact (explained.unsubscribed live unfinished served).imp_right (·.cons _)
    | true =>
        right
        left
        rw [explained.balanced.subscribed live, served]
        simp
  told := explained.told_cons (fun _ _ => Event.noConfusion)

/-- A stream is handed out. It has not failed as closed, and is subscribed unless it was refused. -/
theorem handOut (explained : r.Explained) {bus : Bus} {fresh : Stream} {e : Event}
    (balanced : Balanced ⟨⟨bus, r.broker.streams ++ [some fresh]⟩, e :: r.log⟩)
    (open_ : ∀ id, fresh.state ≠ .failed (.closed id))
    (subscribed : fresh.unfinished = true → bus.serves fresh = true)
    (serves : ∀ {n : Nat} {s : Stream}, r.broker.stream? n = some s →
      bus.serves s = r.broker.bus.serves s)
    (unread : ∀ s, bus.unread s = r.broker.bus.unread s) (silent : ∀ n p, e ≠ .looked n p) :
    Explained ⟨⟨bus, r.broker.streams ++ [some fresh]⟩, e :: r.log⟩ where
  balanced := balanced
  refusal := by
    intro n s id live
    rcases of_stream?_append live with ⟨_, rfl⟩ | ⟨_, before⟩
    · exact open_ id
    · exact explained.refusal before
  unsubscribed := by
    intro n t live unfinished unserved
    rcases of_stream?_append live with ⟨_, rfl⟩ | ⟨_, before⟩
    · rw [subscribed unfinished] at unserved
      exact absurd unserved (by simp)
    · rw [serves before] at unserved
      rw [unread]
      exact (explained.unsubscribed before unfinished unserved).imp_right (·.cons e)
  told := explained.told_cons silent

theorem send (explained : r.Explained) (request : Request) :
    (r.next (.send request)).Explained := by
  have balanced := explained.balanced.next (.send request)
  have sound := explained.balanced.sound
  rcases Bus.send_cases r.broker.bus request with
    ⟨_, result⟩ | ⟨_, _, result⟩ | ⟨consumer, _, _, free, result⟩
  · simp only [next, act, result] at balanced ⊢
    exact explained.handOut balanced (by simp) (by simp [Stream.unfinished]) (fun _ => rfl)
      (fun _ => rfl) (fun _ _ => Event.noConfusion)
  · simp only [next, act, result] at balanced ⊢
    exact explained.handOut balanced (by simp) (by simp [Stream.unfinished]) (fun _ => rfl)
      (fun _ => rfl) (fun _ _ => Event.noConfusion)
  · simp only [next, act, result] at balanced ⊢
    refine explained.handOut balanced (by simp) ?_ (fun live => sound.serves_accept live free)
      (fun s => Sound.unread_accept _ _ s _) (fun _ _ => Event.noConfusion)
    intro _
    simp [Bus.serves, Bus.accept, Fields.find?_insert]

theorem poll (explained : r.Explained) {m : Nat} {s : Stream}
    (live : r.broker.stream? m = some s) : (r.next (.poll m)).Explained := by
  have balanced := explained.balanced.next (.poll m)
  have sound := explained.balanced.sound
  obtain ⟨idEq, served, taken, rest⟩ := sound.poll_reads live
  have inRange := lt_length_of_stream? live
  simp only [next, act, live] at balanced ⊢
  refine ⟨balanced, ?_, ?_, ?_⟩
  · intro n t id liveT
    rcases of_stream?_set inRange liveT with ⟨rfl, rfl⟩ | ⟨_, before⟩
    · rcases Bus.poll_cases r.broker.bus s with ⟨_, _, stream, _⟩ | ⟨c, following, outcome⟩
      · simp [stream]
      · rcases outcome with
          ⟨_, _, _, ⟨_, result⟩ | ⟨_, result⟩⟩ | ⟨_, ⟨_, result⟩ | ⟨_, result⟩⟩ <;>
          simp [result, following]
    · exact explained.refusal before
  · intro n t liveT unfinished unserved
    rcases of_stream?_set inRange liveT with ⟨rfl, rfl⟩ | ⟨place, before⟩
    · -- A stream that goes on has not read a terminal response, so such a response is still there.
      rcases Bus.poll_cases r.broker.bus s with ⟨_, _, stream, _⟩ | ⟨c, following, outcome⟩
      · simp [stream, Stream.unfinished] at unfinished
      · have going : s.unfinished = true := Stream.unfinished_iff.mpr ⟨c, following⟩
        rw [served] at unserved
        rcases explained.unsubscribed live going unserved with ⟨x, member, terminal⟩ | cut
        · rw [rest]
          rcases outcome with
            ⟨y, others, waiting, ⟨interim, _⟩ | ⟨_, result⟩⟩ |
            ⟨waiting, ⟨_, _⟩ | ⟨_, result⟩⟩
          · rw [Bus.unread_of_following following, waiting] at member ⊢
            rcases List.mem_cons.mp member with first | later
            · rw [first, interim] at terminal
              exact absurd terminal (by simp)
            · exact Or.inl ⟨x, later, terminal⟩
          · simp [result, Stream.unfinished] at unfinished
          · rw [Bus.unread_of_following following, waiting] at member
            exact absurd member (by simp)
          · simp [result, Stream.unfinished] at unfinished
        · exact Or.inr (cut.cons _)
    · rw [Sound.serves_poll] at unserved
      rw [sound.unread_poll live before place]
      exact (explained.unsubscribed before unfinished unserved).imp_right (·.cons _)
  · intro n id member
    rcases List.mem_cons.mp member with now | before
    · obtain ⟨rfl, failed⟩ := Event.looked.inj now
      refine Log.CutShort.cons ?_ _
      rcases Bus.poll_cases r.broker.bus s with ⟨finished, _⟩ | ⟨c, following, outcome⟩
      · -- A finished stream tells the error with which it was refused, if any.
        cases state : s.state with
        | failed e =>
            simp only [Bus.poll, state, Poll.failed.injEq] at failed
            exact absurd (failed ▸ state) (explained.refusal live)
        | ended => simp [Bus.poll, state] at failed
        | following c => exact absurd state (Stream.not_following_of_finished finished c)
      · rcases outcome with
          ⟨_, _, _, ⟨_, result⟩ | ⟨_, result⟩⟩ | ⟨waiting, ⟨_, result⟩ | ⟨loose, result⟩⟩
        · simp [result] at failed
        · simp [result] at failed
        · simp [result] at failed
        · have unserved := sound.unserved_of_loose live following loose
          have going : s.unfinished = true := Stream.unfinished_iff.mpr ⟨c, following⟩
          rcases explained.unsubscribed live going unserved with ⟨x, member, _⟩ | cut
          · rw [Bus.unread_of_following following, waiting] at member
            exact absurd member (by simp)
          · exact cut
    · exact (explained.told before).cons _

theorem drop (explained : r.Explained) {m : Nat} {s : Stream}
    (live : r.broker.stream? m = some s) : (r.next (.drop m)).Explained := by
  have balanced := explained.balanced.next (.drop m)
  have sound := explained.balanced.sound
  have inRange := lt_length_of_stream? live
  simp only [next, act, live] at balanced ⊢
  refine ⟨balanced, ?_, ?_, ?_⟩
  · intro n t id liveT
    exact explained.refusal (of_stream?_set_none inRange liveT).2
  · intro n t liveT unfinished unserved
    obtain ⟨place, before⟩ := of_stream?_set_none inRange liveT
    rw [Sound.serves_drop] at unserved
    rw [sound.unread_drop live before place]
    cases served : r.broker.bus.serves t with
    | false => exact (explained.unsubscribed before unfinished served).imp_right (·.cons _)
    | true =>
        have cause : t.id = s.id ∧ s.unfinished = true := by simpa [served] using unserved
        right
        rw [if_pos cause.2]
        left
        exact ⟨place, by rw [explained.balanced.subscribed before, served, if_pos rfl, cause.1]⟩
  · apply explained.told_cons
    intro n p
    split <;> exact Event.noConfusion

theorem next (explained : r.Explained) (a : Action) : (r.next a).Explained := by
  have balanced := explained.balanced.next a
  cases a with
  | listen =>
      exact explained.of_subscribers_eq balanced rfl rfl (fun _ _ => Event.noConfusion)
  | receive c =>
      exact explained.of_subscribers_eq balanced rfl rfl (fun _ _ => Event.noConfusion)
  | leave c =>
      exact explained.of_subscribers_eq balanced rfl rfl (fun _ _ => Event.noConfusion)
  | send request => exact explained.send request
  | respond response => exact explained.respond response
  | close => exact explained.close
  | poll n =>
      cases live : r.broker.stream? n with
      | some s => exact explained.poll live
      | none =>
          simp only [Run.next, act, live] at balanced ⊢
          exact explained.of_subscribers_eq balanced rfl rfl (fun _ _ => Event.noConfusion)
  | drop n =>
      cases live : r.broker.stream? n with
      | some s => exact explained.drop live
      | none =>
          simp only [Run.next, act, live] at balanced ⊢
          exact explained.of_subscribers_eq balanced rfl rfl (fun _ _ => Event.noConfusion)

end Explained

theorem explained_of (actions : List Action) : (of actions).Explained :=
  of_induction (P := Explained) .start (fun _ a explained => explained.next a) actions

end Run

/-- A stream holds the id of an unfinished one, whose own subscription is therefore over. -/
def Succeeds (b : Broker) (t s : Stream) : Prop :=
  s.unfinished = true ∧ t.id = s.id ∧ b.bus.serves t = true

namespace Sound

variable {b : Broker}

theorem untouched_drop_iff (sound : b.Sound) {m n : Nat} {s t : Stream}
    (liveS : b.stream? m = some s) (liveT : b.stream? n = some t) (places : m ≠ n) :
    Untouched b (b.act (.drop m)).1 n t ↔ ¬ b.Succeeds t s := by
  obtain ⟨live, unread, served⟩ := sound.left_by_drop liveS liveT places
  constructor
  · intro untouched successor
    obtain ⟨unfinished, same, held⟩ := successor
    have kept := untouched.2.2
    rw [served] at kept
    simp [unfinished, same, held] at kept
  · intro free
    refine ⟨live, unread, ?_⟩
    rw [served]
    cases held : b.bus.serves t with
    | false => rfl
    | true =>
        cases unfinished : s.unfinished with
        | false => simp
        | true =>
            have differs : t.id ≠ s.id := fun same => free ⟨unfinished, same, held⟩
            simp [differs]

/-- A successor that loses its subscription keeps what reached it, and gets nothing more: once that
is read, it fails. -/
theorem cut_off_by_drop (sound : b.Sound) {m n : Nat} {s t : Stream}
    (liveS : b.stream? m = some s) (liveT : b.stream? n = some t) (places : m ≠ n)
    (successor : b.Succeeds t s) (response : Response) :
    b.bus.serves s = false ∧ (b.act (.drop m)).1.bus.serves t = false ∧
      ((b.act (.drop m)).1.bus.publishResponse response).unread t = b.bus.unread t ∧
      (b.bus.unread t = [] → ((b.act (.drop m)).1.bus.poll t).2.2 = .failed (.closed t.id)) := by
  obtain ⟨unfinished, same, held⟩ := successor
  obtain ⟨live, unread, served⟩ := sound.left_by_drop liveS liveT places
  have unserved : (b.act (.drop m)).1.bus.serves t = false := by
    rw [served]
    simp [unfinished, same]
  refine ⟨?_, unserved, ?_, ?_⟩
  · cases heldS : b.bus.serves s with
    | false => rfl
    | true => exact absurd (sound.eq_of_serves liveS liveT same.symm heldS held) places
  · rw [(sound.act (.drop m)).unread_respond live, unserved, unread]
    simp
  · intro nothing
    rw [← unread] at nothing
    exact (sound.act (.drop m)).fails_when_unserved live (Bus.unfinished_of_serves held) unserved
      nothing

end Sound

/-- What streams do to each other, in every state that a run reaches. A look at a stream leaves
every other live stream as it was. So does giving a stream up, unless the other one is its
successor: then the other one loses its subscription, no response reaches it any more, and it fails
once it has read what it has. A stream that is left with its subscription gets the next response for
its id, and no look at it fails. An unfinished stream without a subscription has got its terminal
response or was cut short, and only one that was cut short has ever failed as closed. -/
theorem untouched_unless_successor (actions : List Action) {m n : Nat} {s t : Stream}
    (liveS : (Run.of actions).broker.stream? m = some s)
    (liveT : (Run.of actions).broker.stream? n = some t) (places : m ≠ n) :
    Untouched (Run.of actions).broker ((Run.of actions).broker.act (.poll m)).1 n t ∧
    (Untouched (Run.of actions).broker ((Run.of actions).broker.act (.drop m)).1 n t ↔
      ¬ (Run.of actions).broker.Succeeds t s) ∧
    ((Run.of actions).broker.Succeeds t s → ∀ response,
      (Run.of actions).broker.bus.serves s = false ∧
      ((Run.of actions).broker.act (.drop m)).1.bus.serves t = false ∧
      (((Run.of actions).broker.act (.drop m)).1.bus.publishResponse response).unread t
        = (Run.of actions).broker.bus.unread t ∧
      ((Run.of actions).broker.bus.unread t = [] →
        (((Run.of actions).broker.act (.drop m)).1.bus.poll t).2.2 = .failed (.closed t.id))) ∧
    (∀ a, a = .poll m ∨ a = .drop m → (Run.of actions).broker.bus.serves t = true →
      Untouched (Run.of actions).broker ((Run.of actions).broker.act a).1 n t →
      (∀ response : Response, response.id = t.id →
        (((Run.of actions).broker.act a).1.bus.publishResponse response).unread t
          = (Run.of actions).broker.bus.unread t ++ [response]) ∧
      ∀ error, (((Run.of actions).broker.act a).1.bus.poll t).2.2 ≠ .failed error) ∧
    (t.unfinished = true → (Run.of actions).broker.bus.serves t = false →
      (∃ x ∈ (Run.of actions).broker.bus.unread t, x.terminal = true) ∨
        (Run.of actions).log.CutShort n) ∧
    ∀ id, .looked n (.failed (.closed id)) ∈ (Run.of actions).log →
      (Run.of actions).log.CutShort n := by
  have explained := Run.explained_of actions
  have sound := explained.balanced.sound
  refine ⟨sound.untouched_poll liveS liveT places, sound.untouched_drop_iff liveS liveT places,
    sound.cut_off_by_drop liveS liveT places, ?_, explained.unsubscribed liveT,
    fun id => explained.told⟩
  intro a _ served untouched
  obtain ⟨live, unread, kept⟩ := untouched
  rw [← unread]
  exact (sound.act a).answered_while_served live (kept.trans served)

/-- An id is asked for again once its first answer is published. -/
def again : List Action :=
  [.listen, .send { id := "a", pattern := .string "p" }, .respond (.reply "a" .null),
    .send { id := "a", pattern := .string "p" }]

/-- The two streams of an id that was asked for again; the second one succeeds the first. -/
theorem succeeds_again :
    (Run.of again).broker.Succeeds ⟨"a", .following 1⟩ ⟨"a", .following 0⟩ ∧
    ¬ Untouched (Run.of again).broker ((Run.of again).broker.act (.drop 0)).1 1
      ⟨"a", .following 1⟩ ∧
    Untouched (Run.of again).broker ((Run.of again).broker.act (.poll 0)).1 1
      ⟨"a", .following 1⟩ := by
  have laws := untouched_unless_successor again (m := 0) (n := 1) (s := ⟨"a", .following 0⟩)
    (t := ⟨"a", .following 1⟩) (by decide) (by decide) (by decide)
  have successor : (Run.of again).broker.Succeeds ⟨"a", .following 1⟩ ⟨"a", .following 0⟩ :=
    ⟨by decide, by decide, by decide⟩
  exact ⟨successor, fun untouched => laws.2.1.mp untouched successor, laws.1⟩

/-- Giving up the first stream of an id that was asked for again takes the answer away from the
second one, which fails as closed although nobody closed the broker. -/
theorem drop_disturbs_successor :
    ¬ Untouched (Run.of again).broker ((Run.of again).broker.act (.drop 0)).1 1
      ⟨"a", .following 1⟩ ∧
    (Run.of (again ++ [.drop 0, .respond (.reply "a" (.bool true)), .poll 1])).log.head?
      = some (.looked 1 (.failed (.closed "a"))) := by
  constructor
  · intro untouched
    exact absurd untouched.2.2 (by decide)
  · rfl

end EventDispatch.Broker
