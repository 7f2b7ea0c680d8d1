import EventDispatch.Proofs.Service.Shutdown
import Mathlib.Data.List.Perm.Subperm
/-!
Every subscription is accounted for.

Purpose: an id is pending only as long as a live stream that has not finished waits for its
responses, so nothing stays subscribed once the streams have ended or were given up. This holds
whenever one action after another is taken, and also when senders and closers are interrupted
between their steps; a request that is subscribed to then counts as the stream that it becomes,
until its subscription is taken back. Taking it back goes by the id, so that it may take what
another stream has subscribed to in between.

Main exports: `Broker.Accounted`, `Broker.Sound.accounted`, `Interrupted`, `Interrupted.Act`,
`Interrupted.next`, `Interrupted.sound_of`, `Interrupted.no_subscription_leaks`,
`Interrupted.left_by_taking_back`.
-/

namespace EventDispatch

namespace Broker

/-- The number of live streams that have not finished. -/
def unfinishedCount (b : Broker) : Nat := (b.streams.filterMap id).countP Stream.unfinished

/-- Every subscription is accounted for by a stream. -/
structure Accounted (b : Broker) : Prop where
  /-- A pending id belongs to a live, unfinished stream with that id, which holds the receiving end
  of its entry. -/
  held : ∀ id c, (id, c) ∈ b.bus.pending → ∃ n s, b.stream? n = some s ∧ s.unfinished = true ∧
    s.id = id ∧ s.state = .following c ∧ b.bus.responses.attended c = true
  /-- There are at least as many live unfinished streams as pending ids. -/
  bound : b.bus.pendingCount ≤ b.unfinishedCount
  /-- Nothing is pending when every stream has finished or was given up. -/
  settled : (∀ n s, b.stream? n = some s → s.unfinished = false) → b.bus.pendingCount = 0

namespace Sound

variable {b : Broker}

theorem held (sound : b.Sound) {id : String} {c : Nat} (member : (id, c) ∈ b.bus.pending) :
    ∃ n s, b.stream? n = some s ∧ s.unfinished = true ∧ s.id = id ∧ s.state = .following c ∧
      b.bus.responses.attended c = true := by
  obtain ⟨n, s, live, same, following⟩ := sound.owner (sound.sorted.find?_of_mem member)
  exact ⟨n, s, live, Stream.unfinished_iff.mpr ⟨c, following⟩, same, following,
    sound.attended live following⟩

/-- Pending ids are different, and each is the id of a live unfinished stream. -/
theorem pendingCount_le (sound : b.Sound) : b.bus.pendingCount ≤ b.unfinishedCount := by
  have different : b.bus.pending.names.Nodup := sound.sorted.imp String.ne_of_lt
  have ids : b.bus.pending.names ⊆
      ((b.streams.filterMap id).filter Stream.unfinished).map Stream.id := by
    intro name member
    obtain ⟨⟨_, c⟩, entry, rfl⟩ := List.mem_map.mp member
    obtain ⟨n, s, live, unfinished, same, _⟩ := sound.held entry
    have present : some s ∈ b.streams := List.mem_of_getElem? (stream?_eq_some_iff.mp live)
    refine List.mem_map.mpr ⟨s, List.mem_filter.mpr ⟨?_, unfinished⟩, same⟩
    exact List.mem_filterMap.mpr ⟨some s, present, rfl⟩
  have lengths := (List.subperm_of_subset different ids).length_le
  rw [List.length_map, ← List.countP_eq_length_filter, Fields.names, List.length_map] at lengths
  exact lengths

/-- Where subscriptions are in order, every one is accounted for. -/
theorem accounted (sound : b.Sound) : b.Accounted where
  held := fun _ _ member => sound.held member
  bound := sound.pendingCount_le
  settled := by
    intro finished
    apply List.length_eq_zero_iff.mpr
    apply List.eq_nil_iff_forall_not_mem.mpr
    rintro ⟨id, c⟩ member
    obtain ⟨n, s, live, unfinished, _⟩ := sound.held member
    rw [finished n s live] at unfinished
    exact absurd unfinished (by simp)

end Sound
end Broker

/-- A bus with the requests on their way into it, as far as they have come; a stream that was given
up leaves its place empty. -/
structure Interrupted where
  bus : Bus := {}
  sendings : List (Option Sending) := []
deriving Inhabited

namespace Interrupted

/-- What can happen when sending and closing are interrupted. -/
inductive Act where
  | listen
  | receive (consumer : Nat)
  | leave (consumer : Nat)
  | respond (response : Response)
  /-- Someone is about to send a request. -/
  | begin (request : Request)
  /-- A sender takes its next step. -/
  | step (place : Nat)
  | poll (place : Nat)
  | drop (place : Nat)
  /-- The first half of closing. -/
  | detach
  /-- The second half of closing. -/
  | clear
deriving Inhabited

/-- How far the request at a place has come. -/
def sending? (x : Interrupted) (n : Nat) : Option Sending := x.sendings[n]?.join

/-- The stream that was handed out at a place. -/
def handed? (x : Interrupted) (n : Nat) : Option Stream :=
  match x.sending? n with
  | some (.done s) => some s
  | _ => none

/-- What follows an act; an act that is not possible now is passed over. -/
def next (x : Interrupted) : Act → Interrupted
  | .listen => { x with bus := x.bus.attach.1 }
  | .receive c => { x with bus := (x.bus.receiveRequest c).1 }
  | .leave c => { x with bus := x.bus.releaseConsumer c }
  | .respond r => { x with bus := x.bus.publishResponse r }
  | .begin r => { x with sendings := x.sendings ++ [some (.begun r)] }
  | .step n => match x.sending? n with
    | some s => ⟨(x.bus.sendStep s).1, x.sendings.set n (some (x.bus.sendStep s).2)⟩
    | none => x
  | .poll n => match x.handed? n with
    | some s => ⟨(x.bus.poll s).1, x.sendings.set n (some (.done (x.bus.poll s).2.1))⟩
    | none => x
  | .drop n => match x.handed? n with
    | some s => ⟨x.bus.drop s, x.sendings.set n none⟩
    | none => x
  | .detach => { x with bus := x.bus.detach }
  | .clear => { x with bus := x.bus.clearPending }

/-- What acts in order lead to, from a bus that nobody has used. -/
def of (acts : List Act) : Interrupted := acts.foldl next {}

/-- The broker with the streams that were handed out or that requests will become. -/
def broker (x : Interrupted) : Broker := ⟨x.bus, x.sendings.map (·.bind Sending.held?)⟩

variable {x : Interrupted}

theorem getElem?_of_sending? {n : Nat} {s : Sending} (place : x.sending? n = some s) :
    x.sendings[n]? = some (some s) := by
  simpa [sending?, Option.join_eq_some_iff] using place

theorem live_of_handed? {n : Nat} {s : Stream} (handed : x.handed? n = some s) :
    x.broker.stream? n = some s := by
  unfold handed? at handed
  split at handed
  · rename_i place
    cases handed
    rw [Broker.stream?_eq_some_iff]
    simp [broker, getElem?_of_sending? place, Sending.held?]
  · exact absurd handed (by simp)

/-- Every act keeps the subscriptions in order. -/
theorem sound_next (sound : x.broker.Sound) (a : Act) : (x.next a).broker.Sound := by
  cases a with
  | listen => exact sound.of_subscribers_eq rfl rfl
  | receive c => exact sound.of_subscribers_eq rfl rfl
  | leave c => exact sound.of_subscribers_eq rfl rfl
  | respond r => exact sound.respond r
  | begin r =>
      have vacant := sound.vacate
      simpa [next, broker, Sending.held?] using vacant
  | step n =>
      simp only [next]
      split
      · rename_i s place
        have held : x.broker.streams[n]? = some s.held? := by
          simp [broker, getElem?_of_sending? place]
        have stepped := sound.sends held (x.bus.sends s)
        simpa [broker, List.map_set] using stepped
      · exact sound
  | poll n =>
      simp only [next]
      split
      · rename_i s handed
        have polled := sound.poll (live_of_handed? handed)
        simpa [broker, List.map_set, Sending.held?] using polled
      · exact sound
  | drop n =>
      simp only [next]
      split
      · rename_i s handed
        have dropped := sound.drop (live_of_handed? handed)
        simpa [broker, List.map_set] using dropped
      · exact sound
  | detach => exact sound.of_subscribers_eq rfl rfl
  | clear => exact sound.close.of_subscribers_eq rfl rfl

theorem sound_of (acts : List Act) : (of acts).broker.Sound := by
  suffices reached : ∀ x : Interrupted, x.broker.Sound → (acts.foldl next x).broker.Sound from
    reached {} .start
  induction acts with
  | nil =>
      intro x sound
      exact sound
  | cons a rest inductionHypothesis =>
      intro x sound
      exact inductionHypothesis (x.next a) (sound_next sound a)

/-- In every state that a run of a broker reaches, every subscription is accounted for by a live
stream that has not finished; also between the steps of sending and of closing, in any
interleaving. -/
theorem no_subscription_leaks :
    (∀ actions : List Broker.Action, (Broker.Run.of actions).broker.Accounted) ∧
      ∀ acts : List Act, (of acts).broker.Accounted :=
  ⟨fun actions => (Broker.sound_of_run actions).accounted, fun acts => (sound_of acts).accounted⟩

/-! ### Taking a subscription back among others -/

/-- A sender that takes its subscription back, while others have their way in between, leaves what
every other stream can read. It takes away the subscription of another stream exactly if that stream
is subscribed to the same id by then. -/
theorem left_by_taking_back (acts : List Act) {m n c : Nat} {id : String} {e : BrokerError}
    {t : Stream} (refused : (of acts).sending? m = some (.refused id c e))
    (live : (of acts).broker.stream? n = some t) (places : m ≠ n) :
    ((of acts).next (.step m)).broker.stream? n = some t ∧
      ((of acts).next (.step m)).bus.unread t = (of acts).bus.unread t ∧
      (((of acts).next (.step m)).bus.serves t = true ↔
        (of acts).bus.serves t = true ∧ t.id ≠ id) := by
  have own : (of acts).broker.stream? m = some ⟨id, .following c⟩ := by
    rw [Broker.stream?_eq_some_iff]
    simp [broker, getElem?_of_sending? refused, Sending.held?]
  -- For the bus, to take a subscription back is to give up the stream of the request.
  have bus : ((of acts).next (.step m)).bus = ((of acts).broker.act (.drop m)).1.bus := by
    simp only [next, refused, Bus.sendStep, Broker.act, own, Bus.drop]
    rfl
  obtain ⟨_, unread, serves⟩ := (sound_of acts).left_by_drop own live places
  rw [bus]
  refine ⟨?_, unread, ?_⟩
  · have elsewhere : ((of acts).sendings.set m (some (.done ⟨id, .failed e⟩)))[n]?
        = (of acts).sendings[n]? := List.getElem?_set_ne places
    simp only [Broker.stream?, broker, List.getElem?_map] at live ⊢
    simp only [next, refused, Bus.sendStep, elsewhere]
    exact live
  · rw [serves]
    simp [Stream.unfinished, broker]

/-- A request is subscribed to and the broker is cleared; a second one with its id is accepted, and
then the consumer leaves. The first one is refused, and takes the subscription of the second. -/
example : (of [.listen, .begin ⟨"a", .null, .null, {}⟩, .step 0, .step 0, .clear,
      .begin ⟨"a", .null, .null, {}⟩, .step 1, .step 1, .step 1, .leave 0, .step 0]).bus.pending
        = [("a", 1)] ∧
    (of [.listen, .begin ⟨"a", .null, .null, {}⟩, .step 0, .step 0, .clear,
      .begin ⟨"a", .null, .null, {}⟩, .step 1, .step 1, .step 1, .leave 0, .step 0,
      .step 0]).bus.pending = [] := by
  decide

end Interrupted
end EventDispatch
