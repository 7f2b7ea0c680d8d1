import EventDispatch.Proofs.Broker.Interference
/-!
Several users of one broker.

Purpose: whoever uses a broker sees its own streams only. Behind the streams of others its actions
are the same, at places further on, and they leave the streams of the others as they were, unless
they publish a response for one of them or give up a stream with its id. Nothing depends on the
places themselves.

Main exports: `Broker.Action.shift`, `Broker.act_shift`, `Broker.following_act`,
`Broker.unfinished_act`, `Broker.Sound.untouched_act`, `Broker.Sound.moved`,
`Broker.Sound.behind_vacant`, `Broker.Sound.serves_of_act`.
-/

namespace EventDispatch.Broker

/-- An action of one user, where the streams of others come first. -/
def Action.shift (places : Nat) : Action → Action
  | .poll n => .poll (places + n)
  | .drop n => .drop (places + n)
  | a => a

theorem stream?_behind (bus : Bus) (others streams : List (Option Stream)) (n : Nat) :
    stream? ⟨bus, others ++ streams⟩ (others.length + n) = stream? ⟨bus, streams⟩ n := by
  unfold stream?
  rw [List.getElem?_append_right (Nat.le_add_right _ _), Nat.add_sub_cancel_left]

/-- Behind the streams of others an action does the same to the bus and to the streams of the one
who acts. -/
theorem act_shift (bus : Bus) (others streams : List (Option Stream)) (a : Action) :
    (act ⟨bus, others ++ streams⟩ (a.shift others.length)).1
      = ⟨(act ⟨bus, streams⟩ a).1.bus, others ++ (act ⟨bus, streams⟩ a).1.streams⟩ := by
  cases a with
  | listen => rfl
  | receive c => rfl
  | leave c => rfl
  | send r => simp [Action.shift, act]
  | respond r => rfl
  | close => rfl
  | poll n =>
      simp only [Action.shift, act, stream?_behind]
      cases live : stream? ⟨bus, streams⟩ n <;> simp
  | drop n =>
      simp only [Action.shift, act, stream?_behind]
      cases live : stream? ⟨bus, streams⟩ n <;> simp

/-- A stream that follows a channel followed it before, or belongs to a request that was accepted
just now. -/
theorem following_act {b : Broker} {a : Action} {n c : Nat} {s : Stream}
    (live : (b.act a).1.stream? n = some s) (following : s.state = .following c) :
    b.stream? n = some s ∨
      n = b.streams.length ∧ c = b.bus.responses.length ∧ ∃ r, a = .send r ∧ s.id = r.id ∧
        (b.bus.pending.find? r.id).any b.bus.responses.attended = false := by
  cases a with
  | send r =>
      rcases of_stream?_append live with ⟨place, rfl⟩ | ⟨_, before⟩
      · rcases Bus.send_cases b.bus r with
          ⟨_, result⟩ | ⟨_, _, result⟩ | ⟨_, _, _, free, result⟩
        · rw [result] at following
          exact absurd following (by simp)
        · rw [result] at following
          exact absurd following (by simp)
        · rw [result] at following ⊢
          cases following
          exact Or.inr ⟨place, rfl, r, rfl, rfl, free⟩
      · exact Or.inl before
  | poll m =>
      cases liveT : b.stream? m with
      | none =>
          simp only [act, liveT] at live
          exact Or.inl live
      | some t =>
          simp only [act, liveT] at live
          rcases of_stream?_set (lt_length_of_stream? liveT) live with ⟨place, rfl⟩ | ⟨_, before⟩
          · rcases Bus.poll_cases b.bus t with ⟨_, _, ended, _⟩ | ⟨_, _, looked⟩
            · rw [ended] at following
              exact absurd following (by simp)
            · rcases looked with
                ⟨_, _, _, ⟨_, result⟩ | ⟨_, result⟩⟩ | ⟨_, ⟨_, result⟩ | ⟨_, result⟩⟩
              · rw [result, place]
                exact Or.inl liveT
              · rw [result] at following
                exact absurd following (by simp)
              · rw [result, place]
                exact Or.inl liveT
              · rw [result] at following
                exact absurd following (by simp)
          · exact Or.inl before
  | drop m =>
      cases liveT : b.stream? m with
      | none =>
          simp only [act, liveT] at live
          exact Or.inl live
      | some t =>
          simp only [act, liveT] at live
          exact Or.inl (of_stream?_set_none (lt_length_of_stream? liveT) live).2
  | _ => exact Or.inl live

/-- An unfinished stream was there before, with its id, or belongs to a request sent just now. -/
theorem unfinished_act {b : Broker} {a : Action} {s : Stream}
    (member : some s ∈ (b.act a).1.streams) (unfinished : s.unfinished = true) :
    (∃ t, some t ∈ b.streams ∧ t.unfinished = true ∧ t.id = s.id) ∨
      ∃ r, a = .send r ∧ s.id = r.id := by
  obtain ⟨n, entry⟩ := List.mem_iff_getElem?.mp member
  obtain ⟨c, following⟩ := Stream.unfinished_iff.mp unfinished
  rcases following_act (stream?_eq_some_iff.mpr entry) following with
    before | ⟨_, _, r, sent, own, _⟩
  · have there := List.mem_of_getElem? (stream?_eq_some_iff.mp before)
    exact Or.inl ⟨s, there, unfinished, rfl⟩
  · exact Or.inr ⟨r, sent, own⟩

namespace Sound

variable {b : Broker}

/-- What someone else does leaves a stream as it was, unless it closes the broker, publishes a
response for the stream's id or gives up an unfinished stream with that id. -/
theorem untouched_act (sound : b.Sound) {n : Nat} {t : Stream} (live : b.stream? n = some t)
    {a : Action} (open_ : a ≠ .close) (silent : ∀ r, a = .respond r → r.id ≠ t.id)
    (elsewhere : a ≠ .poll n ∧ a ≠ .drop n)
    (keeps : ∀ m s, a = .drop m → b.stream? m = some s → s.unfinished = true → s.id ≠ t.id) :
    Untouched b (b.act a).1 n t := by
  cases a with
  | listen => exact ⟨live, Bus.unread_congr rfl t, Bus.serves_congr rfl t⟩
  | receive c => exact ⟨live, Bus.unread_congr rfl t, Bus.serves_congr rfl t⟩
  | leave c => exact ⟨live, Bus.unread_congr rfl t, Bus.serves_congr rfl t⟩
  | close => exact absurd rfl open_
  | send r =>
      have differs : n ≠ b.streams.length := Nat.ne_of_lt (lt_length_of_stream? live)
      rcases Bus.send_cases b.bus r with
        ⟨_, result⟩ | ⟨_, _, result⟩ | ⟨consumer, _, _, free, result⟩
      · simp only [Broker.act, result]
        exact ⟨by rw [stream?_append, if_neg differs]; exact live, rfl, rfl⟩
      · simp only [Broker.act, result]
        exact ⟨by rw [stream?_append, if_neg differs]; exact live, rfl, rfl⟩
      · simp only [Broker.act, result]
        exact ⟨by rw [stream?_append, if_neg differs]; exact live, unread_accept b consumer t r,
          sound.serves_accept live free⟩
  | respond r =>
      have other : t.id ≠ r.id := fun same => silent r rfl same.symm
      refine ⟨live, ?_, ?_⟩
      · simp only [Broker.act]
        rw [sound.unread_respond live, if_neg (fun reached => other reached.2)]
      · simp only [Broker.act]
        rw [sound.serves_respond live]
        simp [other]
  | poll m =>
      have places : m ≠ n := fun same => elsewhere.1 (same ▸ rfl)
      cases liveS : b.stream? m with
      | none =>
          simp only [Broker.act, liveS]
          exact ⟨live, rfl, rfl⟩
      | some s => exact sound.untouched_poll liveS live places
  | drop m =>
      have places : m ≠ n := fun same => elsewhere.2 (same ▸ rfl)
      cases liveS : b.stream? m with
      | none =>
          simp only [Broker.act, liveS]
          exact ⟨live, rfl, rfl⟩
      | some s =>
          apply (sound.untouched_drop_iff liveS live places).mpr
          rintro ⟨unfinished, same, _⟩
          exact keeps m s rfl liveS unfinished same.symm

/-- Soundness says nothing about the places of streams: they may be others, as long as no two
streams come to one place. -/
theorem moved (sound : b.Sound) {streams : List (Option Stream)} (place : Nat → Nat)
    (apart : ∀ {m n : Nat} {s t : Stream}, stream? ⟨b.bus, streams⟩ m = some s →
      stream? ⟨b.bus, streams⟩ n = some t → place m = place n → m = n)
    (there : ∀ {n : Nat} {s : Stream}, stream? ⟨b.bus, streams⟩ n = some s →
      b.stream? (place n) = some s)
    (every : ∀ {n : Nat} {s : Stream}, b.stream? n = some s →
      ∃ m, stream? ⟨b.bus, streams⟩ m = some s) : Sound ⟨b.bus, streams⟩ where
  sorted := sound.sorted
  owner := by
    intro id c found
    obtain ⟨n, s, live, rest⟩ := sound.owner found
    obtain ⟨m, liveNow⟩ := every live
    exact ⟨m, s, liveNow, rest⟩
  apart := by
    intro m n s t c liveS liveT followingS followingT
    exact apart liveS liveT (sound.apart (there liveS) (there liveT) followingS followingT)
  attended := fun live => sound.attended (there live)
  unanswered := fun live => sound.unanswered (there live)
  last := fun live => sound.last (there live)

/-- A place without a stream may be added. -/
theorem vacate (sound : b.Sound) : Sound ⟨b.bus, b.streams ++ [none]⟩ := by
  have entry : ∀ n s, stream? ⟨b.bus, b.streams ++ [none]⟩ n = some s ↔
      b.stream? n = some s := by
    intro n s
    rw [stream?_eq_some_iff, stream?_eq_some_iff]
    rcases Nat.lt_or_ge n b.streams.length with below | beyond
    · rw [List.getElem?_append_left below]
    · rw [List.getElem?_append_right beyond, List.getElem?_eq_none beyond,
        List.getElem?_singleton]
      split <;> simp
  exact sound.moved id (fun _ _ same => same) (fun live => (entry _ _).mp live)
    (fun live => ⟨_, (entry _ _).mpr live⟩)

/-- The stream that was handed out last may go to any empty place instead. -/
theorem handed_to {bus : Bus} {streams : List (Option Stream)} {s : Stream}
    (sound : Sound ⟨bus, streams ++ [some s]⟩) {i : Nat} (empty : streams[i]? = some none) :
    Sound ⟨bus, streams.set i (some s)⟩ := by
  have inRange : i < streams.length := (List.getElem?_eq_some_iff.mp empty).1
  have entries : ∀ n, (streams.set i (some s))[n]?
      = if n = i then some (some s) else streams[n]? := by
    intro n
    rw [List.getElem?_set]
    by_cases same : n = i
    · simp [same, inRange]
    · have differs : ¬ i = n := fun equal => same equal.symm
      simp [same, differs]
  refine sound.moved
    (fun n => if n = i then streams.length else if n = streams.length then i else n) ?_ ?_ ?_
  · intro m n _ _ _ _ same
    split at same <;> split at same <;> (try split at same) <;> (try split at same) <;> omega
  · intro n t live
    rw [stream?_eq_some_iff] at live ⊢
    simp only [entries] at live
    by_cases same : n = i
    · rw [if_pos same] at live
      rw [if_pos same]
      simpa using live
    · rw [if_neg same] at live
      have below : n < streams.length := (List.getElem?_eq_some_iff.mp live).1
      rw [if_neg same, if_neg (Nat.ne_of_lt below), List.getElem?_append_left below]
      exact live
  · intro n t live
    rw [stream?_eq_some_iff] at live
    simp only at live
    rcases Nat.lt_or_ge n streams.length with below | beyond
    · rw [List.getElem?_append_left below] at live
      refine ⟨n, ?_⟩
      rw [stream?_eq_some_iff]
      simp only [entries]
      have differs : n ≠ i := by
        rintro rfl
        rw [empty] at live
        exact absurd live (by simp)
      rw [if_neg differs]
      exact live
    · refine ⟨i, ?_⟩
      rw [stream?_eq_some_iff]
      simp only [entries, if_true]
      rw [List.getElem?_append_right beyond, List.getElem?_singleton] at live
      split at live
      · exact live
      · exact absurd live (by simp)

/-- Others may come first who have no streams yet. -/
theorem behind_vacant {bus : Bus} {streams : List (Option Stream)} (sound : Sound ⟨bus, streams⟩)
    (places : Nat) : Sound ⟨bus, List.replicate places none ++ streams⟩ := by
  have later : ∀ {n : Nat} {s : Stream},
      stream? ⟨bus, List.replicate places none ++ streams⟩ n = some s →
      places ≤ n ∧ stream? ⟨bus, streams⟩ (n - places) = some s := by
    intro n s live
    rw [stream?_eq_some_iff] at live
    rcases Nat.lt_or_ge n places with below | beyond
    · rw [List.getElem?_append_left (by simpa using below), List.getElem?_replicate,
        if_pos below] at live
      exact absurd live (by simp)
    · rw [List.getElem?_append_right (by simpa using beyond), List.length_replicate] at live
      exact ⟨beyond, stream?_eq_some_iff.mpr live⟩
  refine sound.moved (fun n => n - places) ?_ (fun live => (later live).2) ?_
  · intro m n s t liveS liveT same
    have beyondS := (later liveS).1
    have beyondT := (later liveT).1
    omega
  · intro n s live
    refine ⟨places + n, ?_⟩
    have behind := stream?_behind bus (List.replicate places none) streams n
    rw [List.length_replicate] at behind
    rw [behind]
    exact live

/-- A subscription that is over does not come back. -/
theorem serves_of_act (sound : b.Sound) {n : Nat} {t : Stream} (live : b.stream? n = some t)
    {a : Action} (served : (b.act a).1.bus.serves t = true) : b.bus.serves t = true := by
  cases a with
  | listen => exact served
  | receive c => exact served
  | leave c => exact served
  | close =>
      obtain ⟨c, _, found⟩ := Bus.serves_iff.mp served
      simp [Broker.act, Bus.close, Bus.clearPending] at found
  | send r =>
      rcases Bus.send_cases b.bus r with
        ⟨_, result⟩ | ⟨_, _, result⟩ | ⟨consumer, _, _, free, result⟩
      · simpa only [Broker.act, result] using served
      · simpa only [Broker.act, result] using served
      · simp only [Broker.act, result] at served
        rw [sound.serves_accept live free] at served
        exact served
  | respond r =>
      simp only [Broker.act] at served
      rw [sound.serves_respond live, Bool.and_eq_true] at served
      exact served.1
  | poll m =>
      simp only [Broker.act] at served
      split at served
      · rw [serves_poll] at served
        exact served
      · exact served
  | drop m =>
      simp only [Broker.act] at served
      split at served
      · rw [serves_drop, Bool.and_eq_true] at served
        exact served.1
      · exact served

end Sound
end EventDispatch.Broker
