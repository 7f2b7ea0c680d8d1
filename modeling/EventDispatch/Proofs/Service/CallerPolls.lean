import EventDispatch.Proofs.Service.ActsOfOthers
/-!
Looks at the pursuits of a caller.

Purpose: the first look at a pursuit sends its request, unless the id is pending, which then is for
another pursuit; later looks change nothing until the answer is there, and then settle the pursuit
with it. What holds of a caller at every moment goes on to hold.

Main exports: `Caller.Invariant.look`, `Caller.Invariant.turn`, `Caller.Invariant.after`.
-/

namespace EventDispatch

namespace Broker.Sound

variable {b : Broker}

/-- A stream that a look ends may be given up at once. -/
theorem read_out (sound : b.Sound) {n : Nat} {s : Stream} (live : b.stream? n = some s)
    (ended : (b.bus.poll s).2.1.unfinished = false) :
    Sound ⟨(b.bus.poll s).1, b.streams.set n none⟩ := by
  have inRange := lt_length_of_stream? live
  have there : stream? ⟨(b.bus.poll s).1, b.streams.set n (some (b.bus.poll s).2.1)⟩ n
      = some (b.bus.poll s).2.1 := by
    rw [stream?_set _ inRange, if_pos rfl]
  have dropped := (sound.poll live).drop there
  have untouched : (b.bus.poll s).1.drop (b.bus.poll s).2.1 = (b.bus.poll s).1 := by
    apply Bus.drop_of_not_following
    exact Stream.not_following_of_finished ended
  simp only [untouched, List.set_set] at dropped
  exact dropped

end Broker.Sound

namespace Caller.Invariant

variable {e : Caller} {n c : Nat} {g : Registry} {wanted : List Request}

theorem wanted_of_pursuit (kept : e.Invariant n g c wanted) {i : Nat} {p : Pursuit}
    (place : e.pursuits[i]? = some p) : wanted[i]? = some p.request := by
  rw [← kept.requests, List.getElem?_map, place]
  rfl

/-- The streams of all, once a pursuit has been looked at. -/
theorem streams_set {e : Caller} {i : Nat} {p : Pursuit} (place : e.pursuits[i]? = some p)
    (q : Pursuit) : (e.pursuits.set i q).map Pursuit.stream? ++ e.scene.others
      = e.broker.streams.set i q.stream? := by
  have inRange : i < (e.pursuits.map Pursuit.stream?).length := by
    simpa using lt_length_of_pursuit place
  rw [List.map_set, broker, List.set_append_left _ _ inRange]

/-- A look at one pursuit, which leaves the streams of the other ones as they were. -/
theorem of_look (kept : e.Invariant n g c wanted) {i : Nat} {p q : Pursuit}
    (place : e.pursuits[i]? = some p) (request : q.request = p.request) {bus : Bus}
    (sound : Broker.Sound ⟨bus, e.broker.streams.set i q.stream?⟩)
    (orderly : Exchange.Orderly { e.scene.exchange with bus })
    (attending : Exchange.Attending { e.scene.exchange with bus } n g c (wanted.map Request.id))
    (same : ∀ {k : Nat} {r : Pursuit} {s : Stream}, k ≠ i → e.pursuits[k]? = some r →
      r.stream? = some s → bus.serves s = e.scene.exchange.bus.serves s ∧
        bus.unread s = e.scene.exchange.bus.unread s)
    (underWay : ∀ id, e.scene.exchange.underWay c id ≠ [] →
      Exchange.underWay { e.scene.exchange with bus } c id = e.scene.exchange.underWay c id)
    (idle : ∀ {id : String}, id ∈ wanted.map Request.id → bus.pending.find? id = none →
      Exchange.underWay { e.scene.exchange with bus } c id = [])
    (phase : Phase { e.scene.exchange with bus } g c wanted i q) :
    Invariant ⟨{ e.scene with exchange := { e.scene.exchange with bus } }, e.pursuits.set i q⟩
      n g c wanted where
  sound := by
    rw [← streams_set place] at sound
    exact sound
  orderly := orderly
  attending := attending
  requests := (Broker.map_set_same place request).trans kept.requests
  foreign := kept.foreign
  idle := idle
  phase := by
    intro k r placeR
    rw [List.getElem?_set] at placeR
    split at placeR
    · rename_i places
      split at placeR
      · cases placeR
        rw [← places]
        exact phase
      · exact absurd placeR (by simp)
    · rename_i places
      apply (kept.phase placeR).of_same (same (fun equal => places equal.symm) placeR)
      intro busy
      exact List.Perm.of_eq (underWay _ busy)

/-- A look at one pursuit that touches the subscribers' side of the bus only, and subscribes to
nothing. -/
theorem of_reading (kept : e.Invariant n g c wanted) {i : Nat} {p q : Pursuit}
    (place : e.pursuits[i]? = some p) (request : q.request = p.request) (bus : Bus)
    (sound : Broker.Sound ⟨bus, e.broker.streams.set i q.stream?⟩)
    (requests : bus.requests = e.scene.exchange.bus.requests)
    (consumer : bus.consumer = e.scene.exchange.bus.consumer)
    (pending : bus.pending = e.scene.exchange.bus.pending)
    (unread : ∀ {k : Nat} {r : Pursuit} {s : Stream}, k ≠ i → e.pursuits[k]? = some r →
      r.stream? = some s → bus.unread s = e.scene.exchange.bus.unread s)
    {outcome : Outcome} (progress : q.progress = .settled outcome)
    (right : Right wanted g i p.request outcome) :
    Invariant ⟨{ e.scene with exchange := { e.scene.exchange with bus } }, e.pursuits.set i q⟩
      n g c wanted := by
  have underWay : ∀ id, Exchange.underWay { e.scene.exchange with bus } c id
      = e.scene.exchange.underWay c id := by
    intro id
    simp only [Exchange.underWay, requests]
  refine kept.of_look place request sound ?_ ?_ ?_ (fun id _ => underWay id) ?_ ?_
  · exact kept.orderly.of_jobs requests _
  · refine kept.attending.of_runs kept.attending.runs consumer ?_ (fun _ => Or.inl)
    intro d _
    simp only [requests]
    exact List.Subset.refl _
  · intro k r s places placeR waiting
    exact ⟨Bus.serves_congr pending s, unread places placeR waiting⟩
  · intro id concerned free
    rw [pending] at free
    rw [underWay]
    exact kept.idle concerned free
  · exact .settled progress (request ▸ right)

/-- A look at a pursuit whose answer is not there yet changes nothing. -/
theorem look_asked (kept : e.Invariant n g c wanted) {i : Nat} {p : Pursuit} {s : Stream}
    (place : e.pursuits[i]? = some p) (progress : p.progress = .waiting ⟨s, .null⟩)
    (served : e.scene.exchange.bus.serves s = true)
    (nothing : e.scene.exchange.bus.unread s = []) : e.turn (.look i) = e := by
  have live := (kept.live place (stream?_eq_some_iff.mpr ⟨_, progress⟩)).1
  obtain ⟨d, following, _⟩ := Bus.serves_iff.mp served
  have held := (kept.sound.held_iff_serves live following).mpr served
  rw [Bus.unread_of_following following] at nothing
  have waits := Bus.await_nothing (b := e.scene.exchange.bus) following held nothing .null
  apply turn_look_same place
  obtain ⟨request, _⟩ := p
  cases progress
  simp [Exchange.look, Exchange.follow, waits]

/-- A look at a pursuit whose answer is there settles it. -/
theorem look_answered (kept : e.Invariant n g c wanted) {i : Nat} {p : Pursuit} {s : Stream}
    {response : Response} (place : e.pursuits[i]? = some p)
    (progress : p.progress = .waiting ⟨s, .null⟩) (own : s.id = p.request.id)
    (arrived : e.scene.exchange.bus.unread s = [response])
    (answers : g.Answers p.request response) :
    (e.turn (.look i)).Invariant n g c wanted ∧
      (e.turn (.look i)).pursuits[i]? = some ⟨p.request, .settled response.outcome⟩ := by
  have live := (kept.live place (stream?_eq_some_iff.mpr ⟨_, progress⟩)).1
  cases state : s.state with
  | failed error => simp [Bus.unread, state] at arrived
  | ended => simp [Bus.unread, state] at arrived
  | following d =>
      rw [Bus.unread_of_following state] at arrived
      have outcome := Bus.await_answered state arrived answers.terminal
        (answers.id.trans own.symm)
      have polled := Bus.poll_following (b := e.scene.exchange.bus) state
      rw [arrived] at polled
      simp only [answers.terminal, if_true] at polled
      have looked : e.scene.exchange.look p =
          ({ e.scene.exchange with
            bus := (e.scene.exchange.bus.receiveResponse d).1.releaseSubscriber d },
            ⟨p.request, .settled response.outcome⟩) := by
        obtain ⟨request, _⟩ := p
        cases progress
        simp [Exchange.look, Exchange.follow, outcome]
      rw [turn_look place looked]
      refine ⟨?_, ?_⟩
      · refine kept.of_reading (q := ⟨p.request, .settled response.outcome⟩) place rfl _ ?_ rfl rfl
          rfl ?_ rfl (Or.inl answers.outcome)
        · have sound := kept.sound.read_out live (by rw [broker, polled]; rfl)
          rw [show e.broker.bus = e.scene.exchange.bus from rfl, polled] at sound
          exact sound
        · intro k r t places placeR waiting
          have liveR := (kept.live placeR waiting).1
          have unread := kept.sound.unread_poll live liveR (fun same => places same.symm)
          rw [show e.broker.bus = e.scene.exchange.bus from rfl, polled] at unread
          exact unread
      · exact List.getElem?_set_self (lt_length_of_pursuit place)

/-- The first look at a pursuit whose id is pending settles it: the request is refused. -/
theorem look_refused (kept : e.Invariant n g c wanted) {i : Nat} {p : Pursuit}
    (place : e.pursuits[i]? = some p) (progress : p.progress = .unsent)
    (refused : e.scene.exchange.bus.send p.request = (e.scene.exchange.bus,
      ⟨p.request.id, .failed (.duplicateRequestId p.request.id)⟩))
    (taken : (e.scene.exchange.bus.pending.find? p.request.id).any
      e.scene.exchange.bus.responses.attended = true) :
    (e.turn (.look i)).Invariant n g c wanted ∧
      (e.turn (.look i)).pursuits[i]? = some ⟨p.request,
        .settled (.error ⟨p.request.id, .broker (.duplicateRequestId p.request.id)⟩)⟩ := by
  have looked : e.scene.exchange.look p = (e.scene.exchange, ⟨p.request,
      .settled (.error ⟨p.request.id, .broker (.duplicateRequestId p.request.id)⟩)⟩) := by
    simp [Exchange.look, progress, refused, Exchange.follow, Bus.await_failed]
  have idle : p.stream? = none := by simp [Pursuit.stream?, progress]
  rw [turn_look place looked]
  refine ⟨?_, List.getElem?_set_self (lt_length_of_pursuit place)⟩
  refine kept.of_reading (q := ⟨p.request, .settled
      (.error ⟨p.request.id, .broker (.duplicateRequestId p.request.id)⟩)⟩)
    place rfl e.scene.exchange.bus ?_ rfl rfl rfl (fun _ _ _ => rfl) rfl (Or.inr ⟨rfl, ?_⟩)
  · rw [← streams_set place, Broker.map_set_same place idle.symm]
    exact kept.sound
  · cases pending : e.scene.exchange.bus.pending.find? p.request.id with
    | none =>
        rw [pending] at taken
        exact absurd taken (by simp)
    | some d =>
        obtain ⟨k, r, s, placeR, waiting, idEq, _⟩ := kept.owner (kept.id_mem place) pending
        refine ⟨k, r.request, ?_, kept.wanted_of_pursuit placeR, ?_⟩
        · rintro rfl
          rw [place] at placeR
          cases placeR
          rw [idle] at waiting
          exact absurd waiting (by simp)
        · rw [← (kept.phase placeR).own_id waiting, idEq]

/-- The first look at a pursuit whose id is free sends the request: it is under way from now on, and
the pursuit is subscribed. -/
theorem look_accepted (kept : e.Invariant n g c wanted) {i : Nat} {p : Pursuit}
    (place : e.pursuits[i]? = some p) (progress : p.progress = .unsent)
    (attended : e.scene.exchange.bus.requests.attended c = true)
    (free : (e.scene.exchange.bus.pending.find? p.request.id).any
      e.scene.exchange.bus.responses.attended = false)
    (accepted : e.scene.exchange.bus.send p.request = (e.scene.exchange.bus.accept c p.request,
      ⟨p.request.id, .following e.scene.exchange.bus.responses.length⟩)) :
    (e.turn (.look i)).Invariant n g c wanted ∧
      ∃ s, (e.turn (.look i)).pursuits[i]? = some ⟨p.request, .waiting ⟨s, .null⟩⟩ := by
  have inRange := Channels.lt_length_of_attended attended
  have absent := kept.sound.not_pending_of_free free
  have idle := kept.idle (kept.id_mem place) absent
  obtain ⟨attending, underWay⟩ := kept.attending.accept inRange p.request idle
  obtain ⟨nothing, held⟩ := Bus.nothing_accept e.scene.exchange.bus c p.request
  have waits := Bus.await_nothing (b := e.scene.exchange.bus.accept c p.request)
    (s := ⟨p.request.id, .following e.scene.exchange.bus.responses.length⟩) rfl held nothing .null
  have looked : e.scene.exchange.look p = ({ e.scene.exchange with
      bus := e.scene.exchange.bus.accept c p.request }, ⟨p.request,
        .waiting ⟨⟨p.request.id, .following e.scene.exchange.bus.responses.length⟩, .null⟩⟩) := by
    simp [Exchange.look, progress, accepted, Exchange.follow, waits]
  rw [turn_look place looked]
  refine ⟨?_, _, List.getElem?_set_self (lt_length_of_pursuit place)⟩
  refine kept.of_look (q := ⟨p.request, .waiting
    ⟨⟨p.request.id, .following e.scene.exchange.bus.responses.length⟩, .null⟩⟩)
    place rfl ?_ ?_ attending ?_ ?_ ?_ ?_
  · have inPlace : i < (e.pursuits.map Pursuit.stream?).length := by
      simpa using lt_length_of_pursuit place
    have empty : e.broker.streams[i]? = some none := by
      rw [broker, List.getElem?_append_left inPlace, List.getElem?_map, place]
      simp [Pursuit.stream?, progress]
    exact (kept.sound.accept c free).handed_to empty
  · apply kept.orderly.of_bus
    intro d _ was
    rw [Bus.accept, Channels.attended_send]
    exact was
  · intro k r s _ placeR waitingR
    have live := (kept.live placeR waitingR).1
    exact ⟨kept.sound.serves_accept live free, Broker.Sound.unread_accept e.broker c s p.request⟩
  · intro id busy
    rw [underWay, if_neg]
    rintro rfl
    exact busy idle
  · intro id concerned unclaimed
    rw [Bus.find?_accept] at unclaimed
    split at unclaimed
    · exact absurd unclaimed (by simp)
    · rename_i other
      rw [underWay, if_neg other]
      exact kept.idle concerned unclaimed
  · refine .asked rfl rfl ?_ nothing ?_
    · exact Bus.serves_iff.mpr ⟨_, rfl, by rw [Bus.find?_accept, if_pos rfl]⟩
    · rw [underWay, if_pos rfl]

/-- A look at an unsent pursuit sends it. -/
theorem look_unsent (kept : e.Invariant n g c wanted) {i : Nat} {p : Pursuit}
    (place : e.pursuits[i]? = some p) (progress : p.progress = .unsent) :
    (e.turn (.look i)).Invariant n g c wanted ∧
      ∃ q, (e.turn (.look i)).pursuits[i]? = some q ∧ q.progress ≠ .unsent := by
  rcases Bus.send_cases e.scene.exchange.bus p.request with
    ⟨deaf, _⟩ | ⟨_, taken, refused⟩ | ⟨consumer, attached, attended, free, accepted⟩
  · rw [kept.attending.hasConsumer kept.orderly] at deaf
    exact absurd deaf (by simp)
  · obtain ⟨after, settled⟩ := kept.look_refused place progress refused taken
    exact ⟨after, _, settled, by simp⟩
  · have same := kept.attending.consumer.symm.trans attached
    cases same
    obtain ⟨after, s, waiting⟩ := kept.look_accepted place progress attended free accepted
    exact ⟨after, _, waiting, by simp⟩

theorem look (kept : e.Invariant n g c wanted) (i : Nat) :
    (e.turn (.look i)).Invariant n g c wanted := by
  cases place : e.pursuits[i]? with
  | none =>
      rw [turn_look_of_none place]
      exact kept
  | some p =>
      cases kept.phase place with
      | unsent progress => exact (kept.look_unsent place progress).1
      | asked progress _ served nothing =>
          rw [kept.look_asked place progress served nothing]
          exact kept
      | answered progress own _ arrived answers =>
          exact (kept.look_answered place progress own arrived answers).1
      | settled progress =>
          rw [look_settled place progress]
          exact kept

/-- Every turn keeps what holds of a caller, and so does every schedule. -/
theorem turn (kept : e.Invariant n g c wanted) (settles : g.Settles wanted) {t : Turn}
    (spares : t.Spares (wanted.map Request.id))
    (stays : (e.turn t).scene.exchange.bus.consumer = some c) :
    (e.turn t).Invariant n g c wanted := by
  cases t with
  | look i => exact kept.look i
  | act a => exact kept.act settles spares stays

theorem after (kept : e.Invariant n g c wanted) (settles : g.Settles wanted) {schedule : Nat → Turn}
    (spares : ∀ k, (schedule k).Spares (wanted.map Request.id))
    (stays : ∀ k, (e.after schedule k).scene.exchange.bus.consumer = some c) (k : Nat) :
    (e.after schedule k).Invariant n g c wanted := by
  induction k with
  | zero => exact kept
  | succ k inductionHypothesis =>
      exact inductionHypothesis.turn settles (spares k) (stays (k + 1))

end Caller.Invariant
end EventDispatch
