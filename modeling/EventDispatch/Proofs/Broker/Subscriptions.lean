import EventDispatch.Proofs.Broker.Run
/-!
Subscriptions and the streams that hold them.

Purpose: in every state that a run reaches, an id is pending for exactly one stream, which is live
and unfinished and attends the channel of that entry; two streams never share a channel. From this
follows, operation by operation, what becomes of the subscription and of the unread responses of any
stream.

Main exports: `Broker.Sound`, `Broker.Sound.act`, `Broker.sound_of_run`,
`Broker.Sound.serves_respond`, `Broker.Sound.unread_respond`, `Broker.Sound.serves_poll`,
`Broker.Sound.unread_poll`, `Broker.Sound.serves_drop`, `Broker.Sound.unread_drop`.
-/

namespace EventDispatch

namespace Bus

theorem serves_iff {b : Bus} {s : Stream} :
    b.serves s = true ↔ ∃ c, s.state = .following c ∧ b.pending.find? s.id = some c := by
  unfold serves
  cases state : s.state <;> simp

theorem serves_of_following {b : Bus} {s : Stream} {c : Nat} (following : s.state = .following c) :
    b.serves s = true ↔ b.pending.find? s.id = some c := by
  simp [serves, following]

theorem unread_of_following {b : Bus} {s : Stream} {c : Nat} (following : s.state = .following c) :
    b.unread s = b.responses.waiting c := by
  simp [unread, following]

theorem serves_of_finished {b : Bus} {s : Stream} (finished : s.unfinished = false) :
    b.serves s = false := by
  unfold Stream.unfinished at finished
  unfold serves
  cases state : s.state <;> simp_all

theorem unread_of_finished {b : Bus} {s : Stream} (finished : s.unfinished = false) :
    b.unread s = [] := by
  unfold Stream.unfinished at finished
  unfold unread
  cases state : s.state <;> simp_all

theorem unfinished_of_serves {b : Bus} {s : Stream} (served : b.serves s = true) :
    s.unfinished = true := by
  obtain ⟨c, following, _⟩ := serves_iff.mp served
  exact Stream.unfinished_iff.mpr ⟨c, following⟩

/-- Subscriptions and unread responses depend on the subscribers' side of a bus only. -/
theorem serves_congr {b d : Bus} (pending : d.pending = b.pending) (s : Stream) :
    d.serves s = b.serves s := by
  unfold serves
  rw [pending]

theorem unread_congr {b d : Bus} (responses : d.responses = b.responses) (s : Stream) :
    d.unread s = b.unread s := by
  unfold unread
  rw [responses]

end Bus

namespace Broker

/-- The subscriptions of a broker are in order. -/
structure Sound (b : Broker) : Prop where
  /-- Pending ids stand in order, so that each has one entry. -/
  sorted : b.bus.pending.Sorted
  /-- A pending id belongs to a live stream that follows the channel of its entry. -/
  owner : ∀ {id : String} {c : Nat}, b.bus.pending.find? id = some c →
    ∃ n s, b.stream? n = some s ∧ s.id = id ∧ s.state = .following c
  /-- No two streams follow one channel. -/
  apart : ∀ {m n : Nat} {s t : Stream} {c : Nat}, b.stream? m = some s → b.stream? n = some t →
    s.state = .following c → t.state = .following c → m = n
  /-- An unfinished stream attends its channel. -/
  attended : ∀ {n : Nat} {s : Stream} {c : Nat}, b.stream? n = some s →
    s.state = .following c → b.bus.responses.attended c = true
  /-- While a stream is served, no terminal response has reached it. -/
  unanswered : ∀ {n : Nat} {s : Stream}, b.stream? n = some s → b.bus.serves s = true →
    ∀ r ∈ b.bus.unread s, r.terminal = false
  /-- Nothing follows a terminal response. -/
  last : ∀ {n : Nat} {s : Stream}, b.stream? n = some s →
    ∀ r ∈ (b.bus.unread s).dropLast, r.terminal = false

namespace Sound

theorem start : Sound {} where
  sorted := List.Pairwise.nil
  owner := by
    intro id c found
    simp at found
  apart := by
    intro m n s t c live
    simp [stream?] at live
  attended := by
    intro n s c live
    simp [stream?] at live
  unanswered := by
    intro n s live
    simp [stream?] at live
  last := by
    intro n s live
    simp [stream?] at live

variable {b : Broker}

theorem channel_lt_length (sound : b.Sound) {n : Nat} {s : Stream} {c : Nat}
    (live : b.stream? n = some s) (following : s.state = .following c) :
    c < b.bus.responses.length :=
  Channels.lt_length_of_attended (sound.attended live following)

/-- A pending id is attended, so it is refused to others. -/
theorem taken_of_pending (sound : b.Sound) {id : String} {c : Nat}
    (found : b.bus.pending.find? id = some c) :
    (b.bus.pending.find? id).any b.bus.responses.attended = true := by
  obtain ⟨n, s, live, _, following⟩ := sound.owner found
  rw [found]
  exact sound.attended live following

/-- An id that is not taken is not pending. -/
theorem not_pending_of_free (sound : b.Sound) {id : String}
    (free : (b.bus.pending.find? id).any b.bus.responses.attended = false) :
    b.bus.pending.find? id = none := by
  cases found : b.bus.pending.find? id with
  | none => rfl
  | some c =>
      have taken := sound.taken_of_pending found
      rw [free] at taken
      exact absurd taken (by simp)

/-- Two live streams with one id that are both served are one stream. -/
theorem eq_of_serves (sound : b.Sound) {m n : Nat} {s t : Stream} (liveS : b.stream? m = some s)
    (liveT : b.stream? n = some t) (same : s.id = t.id) (servedS : b.bus.serves s = true)
    (servedT : b.bus.serves t = true) : m = n := by
  obtain ⟨c, followingS, foundS⟩ := Bus.serves_iff.mp servedS
  obtain ⟨d, followingT, foundT⟩ := Bus.serves_iff.mp servedT
  have channels : c = d := by
    rw [same, foundT] at foundS
    exact (Option.some.inj foundS).symm
  subst channels
  exact sound.apart liveS liveT followingS followingT

/-- The channel of an unfinished stream is held exactly while the stream is served. -/
theorem held_iff_serves (sound : b.Sound) {n : Nat} {s : Stream} {c : Nat}
    (live : b.stream? n = some s) (following : s.state = .following c) :
    b.bus.subscriberHeld c = true ↔ b.bus.serves s = true := by
  rw [Bus.subscriberHeld_iff, Bus.serves_of_following following]
  constructor
  · rintro ⟨id, member⟩
    have found := sound.sorted.find?_of_mem member
    obtain ⟨m, t, liveT, idEq, followingT⟩ := sound.owner found
    have places := sound.apart live liveT following followingT
    subst places
    rw [live] at liveT
    cases liveT
    rw [idEq]
    exact found
  · intro found
    exact ⟨s.id, Fields.mem_of_find? found⟩

/-! ### Publishing a response -/

/-- A subscription outlives every response but the terminal one for its id. -/
theorem serves_respond (sound : b.Sound) {n : Nat} {s : Stream} (live : b.stream? n = some s)
    (r : Response) :
    (b.bus.publishResponse r).serves s
      = (b.bus.serves s && !(decide (s.id = r.id) && r.terminal)) := by
  cases state : s.state with
  | failed e => simp [Bus.serves, state]
  | ended => simp [Bus.serves, state]
  | following c =>
      have attended := sound.attended live state
      simp only [Bus.serves, state, Bus.find?_publishResponse]
      by_cases same : s.id = r.id
      · rw [same]
        cases found : b.bus.pending.find? r.id with
        | none => simp
        | some d =>
            by_cases channels : d = c
            · subst channels
              cases terminal : r.terminal <;> simp [attended]
            · have differs : (some d == some c) = false := by simpa using channels
              rw [differs]
              split <;> simp [channels]
      · simp [same]

/-- A response is appended to the unread ones of the stream that is served under its id, and of no
other stream. -/
theorem unread_respond (sound : b.Sound) {n : Nat} {s : Stream} (live : b.stream? n = some s)
    (r : Response) :
    (b.bus.publishResponse r).unread s
      = if b.bus.serves s ∧ s.id = r.id then b.bus.unread s ++ [r] else b.bus.unread s := by
  cases state : s.state with
  | failed e => simp [Bus.unread, Bus.serves, state]
  | ended => simp [Bus.unread, Bus.serves, state]
  | following c =>
      have attended := sound.attended live state
      rw [Bus.unread_of_following state, Bus.unread_of_following state, Bus.waiting_publishResponse]
      simp only [attended, and_true, Bus.serves_of_following state]
      by_cases found : b.bus.pending.find? r.id = some c
      · obtain ⟨m, t, liveT, idEq, followingT⟩ := sound.owner found
        have places := sound.apart live liveT state followingT
        subst places
        rw [live] at liveT
        cases liveT
        simp [found, idEq]
      · have other : ¬ (b.bus.pending.find? s.id = some c ∧ s.id = r.id) := by
          rintro ⟨foundS, same⟩
          exact found (same ▸ foundS)
        simp [found, other]

/-! ### Sending a request -/

/-- Taking a request in leaves the subscriptions of the streams that were there. -/
theorem serves_accept (sound : b.Sound) {n consumer : Nat} {s : Stream} {r : Request}
    (live : b.stream? n = some s)
    (free : (b.bus.pending.find? r.id).any b.bus.responses.attended = false) :
    (b.bus.accept consumer r).serves s = b.bus.serves s := by
  cases state : s.state with
  | failed e => simp [Bus.serves, state]
  | ended => simp [Bus.serves, state]
  | following c =>
      simp only [Bus.serves, state, Bus.accept, Fields.find?_insert]
      by_cases same : s.id = r.id
      · have absent := sound.not_pending_of_free free
        have below := sound.channel_lt_length live state
        rw [same, absent]
        simp [Nat.ne_of_gt below]
      · simp [same]

theorem unread_accept (b : Broker) (consumer : Nat) (s : Stream) (r : Request) :
    (b.bus.accept consumer r).unread s = b.bus.unread s := by
  unfold Bus.unread Bus.accept
  cases s.state <;> simp

/-! ### Looking at a stream -/

/-- A look at a stream leaves every subscription. -/
theorem serves_poll (b : Broker) (s t : Stream) : (b.bus.poll s).1.serves t = b.bus.serves t :=
  Bus.serves_congr (Bus.pending_poll _ _) t

/-- A look at a stream leaves the unread responses of every other one. -/
theorem unread_poll (sound : b.Sound) {m n : Nat} {s t : Stream} (liveS : b.stream? m = some s)
    (liveT : b.stream? n = some t) (places : m ≠ n) :
    (b.bus.poll s).1.unread t = b.bus.unread t := by
  cases state : t.state with
  | failed e => simp [Bus.unread, state]
  | ended => simp [Bus.unread, state]
  | following c =>
      rw [Bus.unread_of_following state, Bus.unread_of_following state]
      apply Bus.waiting_poll_of_ne
      intro followingS
      exact places (sound.apart liveS liveT followingS state)

/-! ### Giving up a stream -/

/-- Giving up an unfinished stream ends the subscription to its id, also where another stream holds
it; every other subscription stays. -/
theorem serves_drop (b : Broker) (s t : Stream) :
    (b.bus.drop s).serves t
      = (b.bus.serves t && !(decide (t.id = s.id) && s.unfinished)) := by
  unfold Bus.serves
  cases t.state with
  | failed e => rfl
  | ended => rfl
  | following c =>
      simp only [Bus.find?_drop]
      by_cases same : t.id = s.id
      · cases unfinished : s.unfinished <;> simp [same]
      · simp [same]

/-- Giving up a stream leaves the unread responses of every other one. -/
theorem unread_drop (sound : b.Sound) {m n : Nat} {s t : Stream} (liveS : b.stream? m = some s)
    (liveT : b.stream? n = some t) (places : m ≠ n) :
    (b.bus.drop s).unread t = b.bus.unread t := by
  cases state : t.state with
  | failed e => simp [Bus.unread, state]
  | ended => simp [Bus.unread, state]
  | following c =>
      rw [Bus.unread_of_following state, Bus.unread_of_following state]
      apply Bus.waiting_drop_of_ne
      intro followingS
      exact places (sound.apart liveS liveT followingS state)

/-! ### The order is kept -/

/-- What touches the consumer's side of the bus only. -/
theorem of_subscribers_eq (sound : b.Sound) {bus : Bus} (pending : bus.pending = b.bus.pending)
    (responses : bus.responses = b.bus.responses) : Sound { b with bus } where
  sorted := pending ▸ sound.sorted
  owner := by
    intro id c found
    exact sound.owner (pending ▸ found)
  apart := sound.apart
  attended := by
    intro n s c live following
    rw [responses]
    exact sound.attended live following
  unanswered := by
    intro n s live served
    rw [Bus.serves_congr pending] at served
    rw [Bus.unread_congr responses]
    exact sound.unanswered live served
  last := by
    intro n s live
    rw [Bus.unread_congr responses]
    exact sound.last live

theorem respond (sound : b.Sound) (r : Response) :
    Sound { b with bus := b.bus.publishResponse r } where
  sorted := Bus.sorted_publishResponse sound.sorted r
  owner := by
    intro id c found
    rw [Bus.find?_publishResponse] at found
    split at found
    · simp at found
    · exact sound.owner found
  apart := sound.apart
  attended := by
    intro n s c live following
    rw [Bus.attended_publishResponse]
    exact sound.attended live following
  unanswered := by
    intro n s live served
    rw [sound.serves_respond live] at served
    rw [sound.unread_respond live]
    have before : b.bus.serves s = true := by
      simp only [Bool.and_eq_true] at served
      exact served.1
    intro q member
    split at member
    · rename_i reached
      rcases List.mem_append.mp member with old | new
      · exact sound.unanswered live before q old
      · rw [List.mem_singleton.mp new]
        simpa [before, reached.2] using served
    · exact sound.unanswered live before q member
  last := by
    intro n s live
    rw [sound.unread_respond live]
    split
    · rename_i reached
      rw [List.dropLast_concat]
      exact sound.unanswered live reached.1
    · exact sound.last live

theorem close (sound : b.Sound) : Sound { b with bus := b.bus.close } where
  sorted := List.Pairwise.nil
  owner := by
    intro id c found
    simp [Bus.close, Bus.clearPending] at found
  apart := sound.apart
  attended := sound.attended
  unanswered := by
    intro n s _ served
    obtain ⟨c, _, found⟩ := Bus.serves_iff.mp served
    simp [Bus.close, Bus.clearPending] at found
  last := sound.last

/-- A stream that was refused is handed out. -/
theorem refuse (sound : b.Sound) {s : Stream} (finished : s.unfinished = false) :
    Sound { b with streams := b.streams ++ [some s] } := by
  have older : ∀ {n : Nat} {t : Stream}, t.unfinished = true →
      stream? ⟨b.bus, b.streams ++ [some s]⟩ n = some t → b.stream? n = some t := by
    intro n t unfinished live
    rcases of_stream?_append live with ⟨_, rfl⟩ | ⟨_, before⟩
    · rw [finished] at unfinished
      exact absurd unfinished (by simp)
    · exact before
  have going : ∀ {t : Stream} {c : Nat}, t.state = .following c → t.unfinished = true :=
    fun following => Stream.unfinished_iff.mpr ⟨_, following⟩
  refine ⟨sound.sorted, ?_, ?_, ?_, ?_, ?_⟩
  · intro id c found
    obtain ⟨n, t, live, rest⟩ := sound.owner found
    have differs : n ≠ b.streams.length := Nat.ne_of_lt (lt_length_of_stream? live)
    exact ⟨n, t, by rw [stream?_append, if_neg differs]; exact live, rest⟩
  · intro m n t u c liveT liveU followingT followingU
    exact sound.apart (older (going followingT) liveT) (older (going followingU) liveU)
      followingT followingU
  · intro n t c live following
    exact sound.attended (older (going following) live) following
  · intro n t live served
    exact sound.unanswered (older (Bus.unfinished_of_serves served) live) served
  · intro n t live
    cases unfinished : t.unfinished with
    | true => exact sound.last (older unfinished live)
    | false =>
        rw [Bus.unread_of_finished unfinished]
        simp

/-- A request is taken in, and its stream is handed out. -/
theorem accept (sound : b.Sound) (consumer : Nat) {r : Request}
    (free : (b.bus.pending.find? r.id).any b.bus.responses.attended = false) :
    Sound ⟨b.bus.accept consumer r,
      b.streams ++ [some ⟨r.id, .following b.bus.responses.length⟩]⟩ := by
  have below : ∀ {n : Nat} {s : Stream}, b.stream? n = some s →
      s.state ≠ .following b.bus.responses.length := by
    intro n s live following
    exact absurd (sound.channel_lt_length live following) (Nat.lt_irrefl _)
  refine ⟨sound.sorted.insert r.id b.bus.responses.length, ?_, ?_, ?_, ?_, ?_⟩
  · intro id c found
    simp only [Bus.accept, Fields.find?_insert] at found
    by_cases same : id = r.id
    · rw [if_pos same] at found
      cases found
      exact ⟨b.streams.length, _, by rw [stream?_append, if_pos rfl], same.symm, rfl⟩
    · rw [if_neg same] at found
      obtain ⟨n, t, live, rest⟩ := sound.owner found
      have differs : n ≠ b.streams.length := Nat.ne_of_lt (lt_length_of_stream? live)
      exact ⟨n, t, by rw [stream?_append, if_neg differs]; exact live, rest⟩
  · intro m n s t c liveS liveT followingS followingT
    rcases of_stream?_append liveS with ⟨placeS, rfl⟩ | ⟨_, beforeS⟩
    · cases followingS
      rcases of_stream?_append liveT with ⟨placeT, rfl⟩ | ⟨_, beforeT⟩
      · rw [placeS, placeT]
      · exact absurd followingT (below beforeT)
    · rcases of_stream?_append liveT with ⟨_, rfl⟩ | ⟨_, beforeT⟩
      · cases followingT
        exact absurd followingS (below beforeS)
      · exact sound.apart beforeS beforeT followingS followingT
  · intro n s c live following
    simp only [Bus.accept]
    rw [Channels.attended_append_new]
    split
    · rfl
    · rename_i older
      rcases of_stream?_append live with ⟨_, rfl⟩ | ⟨_, before⟩
      · cases following
        exact absurd rfl older
      · exact sound.attended before following
  · intro n s live served
    rw [unread_accept]
    rcases of_stream?_append live with ⟨_, rfl⟩ | ⟨_, before⟩
    · rw [Bus.unread_of_following rfl, Channels.waiting_of_length_le (Nat.le_refl _)]
      simp
    · rw [sound.serves_accept before free] at served
      exact sound.unanswered before served
  · intro n s live
    rw [unread_accept]
    rcases of_stream?_append live with ⟨_, rfl⟩ | ⟨_, before⟩
    · rw [Bus.unread_of_following rfl, Channels.waiting_of_length_le (Nat.le_refl _)]
      simp
    · exact sound.last before

/-- The place of a stream that is not served afterwards is emptied or taken by a finished one. -/
theorem finish (sound : b.Sound) {n : Nat} {s : Stream} (live : b.stream? n = some s) {bus : Bus}
    {entry : Option Stream} (finished : ∀ t, entry = some t → t.unfinished = false)
    (sorted : bus.pending.Sorted)
    (pending : ∀ id c, bus.pending.find? id = some c →
      b.bus.pending.find? id = some c ∧ s.state ≠ .following c)
    (attended : ∀ c, s.state ≠ .following c →
      bus.responses.attended c = b.bus.responses.attended c)
    (waiting : ∀ c, s.state ≠ .following c →
      bus.responses.waiting c = b.bus.responses.waiting c) :
    Sound ⟨bus, b.streams.set n entry⟩ := by
  have place : ∀ m, stream? ⟨bus, b.streams.set n entry⟩ m
      = if m = n then entry else b.stream? m := stream?_set bus (lt_length_of_stream? live) entry
  have older : ∀ {m : Nat} {t : Stream} {c : Nat}, t.state = .following c →
      stream? ⟨bus, b.streams.set n entry⟩ m = some t →
      b.stream? m = some t ∧ s.state ≠ .following c := by
    intro m t c following liveT
    rw [place] at liveT
    split at liveT
    · exact absurd following (Stream.not_following_of_finished (finished t liveT) c)
    · rename_i differs
      exact ⟨liveT, fun followingS => differs (sound.apart liveT live following followingS)⟩
  refine ⟨sorted, ?_, ?_, ?_, ?_, ?_⟩
  · intro id c found
    obtain ⟨before, unfollowed⟩ := pending id c found
    obtain ⟨m, t, liveT, idEq, following⟩ := sound.owner before
    have differs : m ≠ n := by
      intro same
      subst same
      rw [live] at liveT
      cases liveT
      exact unfollowed following
    exact ⟨m, t, by rw [place, if_neg differs]; exact liveT, idEq, following⟩
  · intro m k t u c liveT liveU followingT followingU
    exact sound.apart (older followingT liveT).1 (older followingU liveU).1 followingT followingU
  · intro m t c liveT following
    obtain ⟨before, unfollowed⟩ := older following liveT
    rw [attended c unfollowed]
    exact sound.attended before following
  · intro m t liveT served
    obtain ⟨c, following, found⟩ := Bus.serves_iff.mp served
    obtain ⟨before, unfollowed⟩ := older following liveT
    rw [Bus.unread_of_following following, waiting c unfollowed,
      ← Bus.unread_of_following following]
    exact sound.unanswered before (Bus.serves_iff.mpr ⟨c, following, (pending _ _ found).1⟩)
  · intro m t liveT
    cases state : t.state with
    | failed e => simp [Bus.unread, state]
    | ended => simp [Bus.unread, state]
    | following c =>
        obtain ⟨before, unfollowed⟩ := older state liveT
        rw [Bus.unread_of_following state, waiting c unfollowed, ← Bus.unread_of_following state]
        exact sound.last before

/-- A response is taken from a channel. -/
theorem take (sound : b.Sound) (c : Nat) :
    Sound { b with bus := (b.bus.receiveResponse c).1 } := by
  have fewer : ∀ t : Stream, (b.bus.receiveResponse c).1.unread t <:+ b.bus.unread t := by
    intro t
    cases state : t.state with
    | failed e => simp [Bus.unread, state]
    | ended => simp [Bus.unread, state]
    | following d =>
        rw [Bus.unread_of_following state, Bus.unread_of_following state,
          Bus.waiting_receiveResponse]
        split
        · exact List.tail_suffix _
        · exact List.suffix_refl _
  refine ⟨sound.sorted, sound.owner, sound.apart, ?_, ?_, ?_⟩
  · intro n t d live following
    rw [Bus.attended_receiveResponse]
    exact sound.attended live following
  · intro n t live served r member
    exact sound.unanswered live served r ((fewer t).mem member)
  · intro n t live r member
    obtain ⟨taken, split⟩ := fewer t
    apply sound.last live r
    rw [← split]
    cases rest : (b.bus.receiveResponse c).1.unread t with
    | nil =>
        rw [rest] at member
        simp at member
    | cons first others =>
        rw [rest] at member
        rw [List.dropLast_append_of_ne_nil (by simp)]
        exact List.mem_append_right _ member

/-- The entries that a stream leaves behind when it ends unserved belong to others. -/
private theorem unfollowed_of_unserved (sound : b.Sound) {n : Nat} {s : Stream}
    (live : b.stream? n = some s) (unserved : b.bus.serves s = false) {id : String} {c : Nat}
    (found : b.bus.pending.find? id = some c) : s.state ≠ .following c := by
  intro following
  have held : b.bus.subscriberHeld c = true :=
    Bus.subscriberHeld_iff.mpr ⟨id, Fields.mem_of_find? found⟩
  rw [sound.held_iff_serves live following, unserved] at held
  exact absurd held (by simp)

/-- A stream that is about to yield a terminal response is not served any more. -/
theorem unserved_of_terminal (sound : b.Sound) {n : Nat} {s : Stream}
    (live : b.stream? n = some s) {r : Response} (member : r ∈ b.bus.unread s)
    (terminal : r.terminal = true) : b.bus.serves s = false := by
  cases served : b.bus.serves s with
  | false => rfl
  | true =>
      have pending := sound.unanswered live served r member
      rw [terminal] at pending
      exact absurd pending (by simp)

/-- A stream whose channel nobody holds is not served. -/
theorem unserved_of_loose (sound : b.Sound) {n : Nat} {s : Stream} {c : Nat}
    (live : b.stream? n = some s) (following : s.state = .following c)
    (loose : b.bus.subscriberHeld c = false) : b.bus.serves s = false := by
  cases served : b.bus.serves s with
  | false => rfl
  | true =>
      rw [(sound.held_iff_serves live following).mpr served] at loose
      exact absurd loose (by simp)

theorem poll (sound : b.Sound) {n : Nat} {s : Stream} (live : b.stream? n = some s) :
    Sound ⟨(b.bus.poll s).1, b.streams.set n (some (b.bus.poll s).2.1)⟩ := by
  have ended : ∀ t, some { s with state := .ended } = some t → t.unfinished = false := by
    rintro t ⟨⟩
    rfl
  rcases Bus.poll_cases b.bus s with ⟨finished, bus, stream, _⟩ | ⟨c, following, outcome⟩
  · rw [bus, stream]
    refine sound.finish live ended sound.sorted ?_ (fun _ _ => rfl) (fun _ _ => rfl)
    intro id c found
    exact ⟨found, Stream.not_following_of_finished finished c⟩
  · rcases outcome with
      ⟨r, rest, waiting, ⟨_, result⟩ | ⟨terminal, result⟩⟩ | ⟨_, ⟨_, result⟩ | ⟨loose, result⟩⟩
    · rw [result, set_stream? live]
      exact sound.take c
    · have unserved : b.bus.serves s = false := by
        refine sound.unserved_of_terminal live (r := r) ?_ terminal
        rw [Bus.unread_of_following following, waiting]
        exact List.mem_cons_self
      rw [result]
      refine sound.finish live ended sound.sorted ?_ ?_ ?_
      · intro id d found
        exact ⟨found, sound.unfollowed_of_unserved live unserved found⟩
      · intro d other
        have differs : ¬ d = c := fun equal => other (equal ▸ following)
        simp only [Bus.releaseSubscriber]
        rw [Channels.attended_release, if_neg differs, Bus.attended_receiveResponse]
      · intro d other
        have differs : ¬ d = c := fun equal => other (equal ▸ following)
        simp only [Bus.releaseSubscriber]
        rw [Channels.waiting_release, if_neg differs, Bus.waiting_receiveResponse,
          if_neg differs]
    · rw [result, set_stream? live]
      exact sound
    · have unserved := sound.unserved_of_loose live following loose
      rw [result]
      refine sound.finish live ended sound.sorted ?_ ?_ ?_
      · intro id d found
        exact ⟨found, sound.unfollowed_of_unserved live unserved found⟩
      · intro d other
        have differs : ¬ d = c := fun equal => other (equal ▸ following)
        simp only [Bus.releaseSubscriber]
        rw [Channels.attended_release, if_neg differs]
      · intro d other
        have differs : ¬ d = c := fun equal => other (equal ▸ following)
        simp only [Bus.releaseSubscriber]
        rw [Channels.waiting_release, if_neg differs]

theorem drop (sound : b.Sound) {n : Nat} {s : Stream} (live : b.stream? n = some s) :
    Sound ⟨b.bus.drop s, b.streams.set n none⟩ := by
  refine sound.finish live (by simp) (Bus.sorted_drop sound.sorted s) ?_ ?_ ?_
  · intro id c found
    rw [Bus.find?_drop] at found
    split at found
    · simp at found
    · rename_i kept
      refine ⟨found, fun following => ?_⟩
      obtain ⟨m, t, liveT, idEq, followingT⟩ := sound.owner found
      have places := sound.apart live liveT following followingT
      subst places
      rw [live] at liveT
      cases liveT
      exact kept ⟨idEq.symm, Stream.unfinished_iff.mpr ⟨c, following⟩⟩
  · intro c other
    exact Bus.attended_drop_of_ne other
  · intro c other
    exact Bus.waiting_drop_of_ne other

/-- A look at a stream takes the oldest unread response, if there is one, and leaves the stream's
subscription and the rest of its unread responses. -/
theorem poll_reads (sound : b.Sound) {n : Nat} {s : Stream} (live : b.stream? n = some s) :
    (b.bus.poll s).2.1.id = s.id ∧
      (b.bus.poll s).1.serves (b.bus.poll s).2.1 = b.bus.serves s ∧
      (b.bus.poll s).2.2.response? = (b.bus.unread s).head? ∧
      (b.bus.poll s).1.unread (b.bus.poll s).2.1 = (b.bus.unread s).tail := by
  rcases Bus.poll_cases b.bus s with ⟨finished, bus, stream, silent⟩ | ⟨c, following, outcome⟩
  · rw [bus, stream, Bus.serves_of_finished finished, Bus.unread_of_finished finished]
    refine ⟨rfl, rfl, ?_, rfl⟩
    cases result : (b.bus.poll s).2.2 with
    | item r => exact absurd result (silent r)
    | failed e => rfl
    | waiting => rfl
    | ended => rfl
  · have unread := Bus.unread_of_following (b := b.bus) following
    rcases outcome with
      ⟨r, rest, waiting, ⟨_, result⟩ | ⟨terminal, result⟩⟩ |
      ⟨waiting, ⟨_, result⟩ | ⟨loose, result⟩⟩
    · rw [result, unread, waiting]
      refine ⟨rfl, rfl, rfl, ?_⟩
      rw [Bus.unread_of_following following, Bus.waiting_receiveResponse, if_pos rfl, waiting]
    · have unserved : b.bus.serves s = false := by
        refine sound.unserved_of_terminal live (r := r) ?_ terminal
        rw [unread, waiting]
        exact List.mem_cons_self
      -- The terminal response is the last one, so nothing is lost with the channel.
      have alone : rest = [] := by
        cases rest with
        | nil => rfl
        | cons second others =>
            have early := sound.last live r (by rw [unread, waiting]; simp)
            rw [terminal] at early
            exact absurd early (by simp)
      rw [result, unread, waiting, unserved, alone]
      exact ⟨rfl, rfl, rfl, rfl⟩
    · rw [result, unread, waiting]
      exact ⟨rfl, rfl, rfl, rfl⟩
    · have unserved := sound.unserved_of_loose live following loose
      rw [result, unread, waiting, unserved]
      exact ⟨rfl, rfl, rfl, rfl⟩

/-- Every action keeps the subscriptions in order. -/
theorem act (sound : b.Sound) (a : Action) : (b.act a).1.Sound := by
  cases a with
  | listen => exact sound.of_subscribers_eq rfl rfl
  | receive c => exact sound.of_subscribers_eq rfl rfl
  | leave c => exact sound.of_subscribers_eq rfl rfl
  | send r =>
      rcases Bus.send_cases b.bus r with
        ⟨_, result⟩ | ⟨_, _, result⟩ | ⟨consumer, _, _, free, result⟩
      · simp only [Broker.act, result]
        exact sound.refuse rfl
      · simp only [Broker.act, result]
        exact sound.refuse rfl
      · simp only [Broker.act, result]
        exact sound.accept consumer free
  | respond r => exact sound.respond r
  | close => exact sound.close
  | poll n =>
      simp only [Broker.act]
      split
      · rename_i s live
        exact sound.poll live
      · exact sound
  | drop n =>
      simp only [Broker.act]
      split
      · rename_i s live
        exact sound.drop live
      · exact sound

end Sound

/-- In every state that a run reaches the subscriptions are in order. -/
theorem sound_of_run (actions : List Action) : (Run.of actions).broker.Sound :=
  Run.of_induction (P := fun r => r.broker.Sound) Sound.start (fun _ a sound => sound.act a) actions

end Broker
end EventDispatch
