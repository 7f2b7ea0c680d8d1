import EventDispatch.Proofs.Broker.Awaiting
import EventDispatch.Proofs.Service.Provenance
import EventDispatch.Proofs.Service.Queue
import EventDispatch.Proofs.Service.ScheduleIndependence
/-!
Whose answers the outcomes of a caller are.

Purpose: nobody else uses the ids of the requests that a caller pursues. Then, whatever servers are
added, listen or are closed meanwhile, and whether or not their handlers come to an end, an outcome
is a failure of the broker, or the answer that a served registry gives to one of the requests, with
the id of the pursuit.

What carries the proof: what waits or is handled with an id of the requests is one of them, and what
a pursuit can read are answers to them.

Main exports: `Caller.whole`, `Scene.Sound.unread_next`, `Exchange.Provided`, `Caller.Due`,
`Caller.Sourced`, `Caller.sourced_start`, `Caller.Sourced.turn`, `Caller.Sourced.results`.
-/

namespace EventDispatch

/-! ### What is new after an act -/

namespace Scene

variable {s : Scene}

/-- A job was there before, or is the request that waited at the loop of a server. -/
theorem job_next (s : Scene) {a : Act} {job : Job} (member : job ∈ (s.next a).exchange.jobs) :
    job ∈ s.exchange.jobs ∨
      (∃ server ∈ s.exchange.servers, server.registry = job.registry) ∧
        ∃ c, job.request ∈ s.queue c := by
  cases a with
  | serve g => exact Or.inl member
  | listen n =>
      simp only [next, Exchange.listen] at member
      split at member
      · exact Or.inl member
      · split at member <;> exact Or.inl member
  | close n =>
      simp only [next, Exchange.closeServer] at member
      split at member
      · exact Or.inl member
      · split at member <;> exact Or.inl member
  | use a =>
      simp only [next, used] at member
      split at member <;> exact Or.inl member
  | move m =>
      cases moved : s.exchange.move m with
      | none =>
          simp only [next, moved] at member
          exact Or.inl member
      | some y =>
          simp only [next, moved, Option.getD_some] at member
          rcases Exchange.move_cases moved with
            ⟨n, server, loop, request, rfl, running, got, rfl⟩ | ⟨_, _, _, _, _, _, rfl⟩ |
            ⟨_, _, _, _, _, _, rfl⟩ | ⟨_, _, _, _, _, rfl⟩
          · rcases List.mem_append.mp member with before | new
            · exact Or.inl before
            · rw [List.mem_singleton.mp new]
              obtain ⟨place, _⟩ := Exchange.runningLoop?_eq_some_iff.mp running
              have first := Bus.receiveRequest_eq_item_iff.mp got
              exact Or.inr ⟨⟨server, List.mem_of_getElem? place, rfl⟩, loop.channel,
                List.mem_of_mem_head? first⟩
          · exact Or.inl member
          · exact Or.inl (List.mem_of_mem_eraseIdx member)
          · exact Or.inl (List.mem_of_mem_eraseIdx member)

/-- A request that waits waited before, or was sent by someone else just now. -/
theorem waiting_next (s : Scene) {a : Act} {c : Nat} {q : Request}
    (member : q ∈ (s.next a).queue c) : q ∈ s.queue c ∨ a = .use (.send q) := by
  have sent : ∀ r, s.accepted? c a = some r → a = .use (.send r) := by
    intro r accepted
    unfold accepted? at accepted
    split at accepted
    · split at accepted
      · cases accepted
        rfl
      · cases accepted
    · cases accepted
  rcases s.queue_next c a with appended | ⟨_, fewer, _⟩
  · rw [appended] at member
    rcases List.mem_append.mp member with before | new
    · exact Or.inl before
    · exact Or.inr (sent q (Option.mem_toList.mp new))
  · exact Or.inl (fewer.mem member)

end Scene

namespace Broker.Sound

variable {b : Broker}

/-- What someone else does leaves the responses that a stream can read as they were, unless it is
the publication of a response for the stream. -/
theorem unread_act (sound : b.Sound) {n : Nat} {t : Stream} (live : b.stream? n = some t)
    {a : Action} (elsewhere : a ≠ .poll n ∧ a ≠ .drop n) {r : Response}
    (member : r ∈ (b.act a).1.bus.unread t) :
    r ∈ b.bus.unread t ∨ a = .respond r ∧ r.id = t.id := by
  cases a with
  | listen => exact Or.inl member
  | receive c => exact Or.inl member
  | leave c => exact Or.inl member
  | close => exact Or.inl member
  | send q =>
      left
      rcases Bus.send_cases b.bus q with ⟨_, result⟩ | ⟨_, _, result⟩ | ⟨consumer, _, _, _, result⟩
      · simpa only [Broker.act, result] using member
      · simpa only [Broker.act, result] using member
      · simpa only [Broker.act, result, unread_accept] using member
  | respond x =>
      simp only [Broker.act] at member
      rw [sound.unread_respond live] at member
      split at member
      · rename_i reached
        rcases List.mem_append.mp member with before | new
        · exact Or.inl before
        · rw [List.mem_singleton.mp new]
          exact Or.inr ⟨rfl, reached.2.symm⟩
      · exact Or.inl member
  | poll m =>
      left
      have places : m ≠ n := fun same => elsewhere.1 (same ▸ rfl)
      cases liveS : b.stream? m with
      | none => simpa only [Broker.act, liveS] using member
      | some s => simpa only [Broker.act, liveS, sound.unread_poll liveS live places] using member
  | drop m =>
      left
      have places : m ≠ n := fun same => elsewhere.2 (same ▸ rfl)
      cases liveS : b.stream? m with
      | none => simpa only [Broker.act, liveS] using member
      | some s => simpa only [Broker.act, liveS, sound.unread_drop liveS live places] using member

/-- Whoever waits for an outcome keeps the subscriptions in order, and leaves the responses that
other streams can read. -/
theorem await_keeps (sound : b.Sound) {n : Nat} {w : Waiter} (live : b.stream? n = some w.stream) :
    Sound ⟨(b.bus.await w).1, b.streams.set n (Waiter.kept (b.bus.await w).2)⟩ ∧
      ∀ {m : Nat} {t : Stream}, m ≠ n → b.stream? m = some t →
        (b.bus.await w).1.unread t = b.bus.unread t := by
  have kept := follow_keeps (n := n) (b := b) (w := w)
    (P := fun d => d.Sound ∧ ∀ m t, m ≠ n → b.stream? m = some t →
      d.stream? m = some t ∧ d.bus.unread t = b.bus.unread t)
    ?poll ?drop (b.bus.buffered w.stream + 1) live ⟨sound, fun _ _ _ there => ⟨there, rfl⟩⟩
  case poll =>
    rintro d ⟨soundD, others⟩
    refine ⟨soundD.act _, ?_⟩
    intro m t differs there
    obtain ⟨liveD, unread⟩ := others m t differs there
    cases liveS : d.stream? n with
    | none =>
        simp only [Broker.act, liveS]
        exact ⟨liveD, unread⟩
    | some s =>
        obtain ⟨liveAfter, same, _⟩ := soundD.untouched_poll liveS liveD differs.symm
        exact ⟨liveAfter, same.trans unread⟩
  case drop =>
    rintro d ⟨soundD, others⟩
    refine ⟨soundD.act _, ?_⟩
    intro m t differs there
    obtain ⟨liveD, unread⟩ := others m t differs there
    cases liveS : d.stream? n with
    | none =>
        simp only [Broker.act, liveS]
        exact ⟨liveD, unread⟩
    | some s =>
        obtain ⟨liveAfter, same, _⟩ := soundD.left_by_drop liveS liveD differs.symm
        exact ⟨liveAfter, same.trans unread⟩
  exact ⟨kept.1, fun differs there => (kept.2 _ _ differs there).2⟩

end Broker.Sound

/-- A response that a stream can read could be read before, or was published for it just now: by
someone else, or as the answer of a job. -/
theorem Scene.Sound.unread_next {s : Scene} (sound : s.Sound) {n : Nat} {t : Stream}
    (live : s.broker.stream? n = some t) {a : Scene.Act}
    (elsewhere : a ≠ .use (.poll n) ∧ a ≠ .use (.drop n)) {r : Response}
    (member : r ∈ (s.next a).exchange.bus.unread t) :
    r ∈ s.exchange.bus.unread t ∨ r.id = t.id ∧
      (a = .use (.respond r) ∨ ∃ job ∈ s.exchange.jobs, job.registry.Answers job.request r) := by
  cases a with
  | serve g => exact Or.inl member
  | listen k =>
      left
      simp only [Scene.next, Exchange.listen] at member
      split at member
      · exact member
      · split at member <;> exact member
  | close k =>
      left
      simp only [Scene.next, Exchange.closeServer] at member
      split at member
      · exact member
      · split at member
        · split at member <;> exact member
        · exact member
  | use b =>
      simp only [Scene.next, Scene.used] at member
      split at member
      · exact Or.inl member
      · have others : b ≠ .poll n ∧ b ≠ .drop n :=
          ⟨fun same => elsewhere.1 (same ▸ rfl), fun same => elsewhere.2 (same ▸ rfl)⟩
        rcases sound.broker.unread_act live others member with before | ⟨rfl, own⟩
        · exact Or.inl before
        · exact Or.inr ⟨own, Or.inl rfl⟩
  | move m =>
      cases moved : s.exchange.move m with
      | none =>
          simp only [Scene.next, moved] at member
          exact Or.inl member
      | some y =>
          simp only [Scene.next, moved, Option.getD_some] at member
          rcases Exchange.move_cases moved with
            ⟨_, _, _, _, _, _, _, rfl⟩ | ⟨_, _, _, _, _, _, rfl⟩ |
            ⟨j, job, response, rfl, found, handled, rfl⟩ | ⟨_, _, _, _, _, rfl⟩
          · exact Or.inl member
          · exact Or.inl member
          · have published : r ∈ (s.broker.act (.respond response)).1.bus.unread t := member
            rcases sound.broker.unread_act live (by simp) published with before | ⟨same, own⟩
            · exact Or.inl before
            · cases same
              exact Or.inr ⟨own, Or.inr ⟨job, List.mem_of_getElem? found,
                Registry.handle_eq_answered_iff.mp handled⟩⟩
          · exact Or.inl member

/-! ### Registries that are served -/

/-- Servers and jobs have registries of some sort. -/
structure Exchange.Provided (served : Registry → Prop) (x : Exchange) : Prop where
  servers : ∀ server ∈ x.servers, served server.registry
  jobs : ∀ job ∈ x.jobs, served job.registry

theorem Exchange.Provided.next {served : Registry → Prop} {s : Scene}
    (provided : s.exchange.Provided served) {a : Scene.Act}
    (serves : ∀ g, a = .serve g → served g) : (s.next a).exchange.Provided served where
  servers := by
    intro server member
    rcases s.registry_next member with ⟨old, before, same⟩ | new
    · exact same ▸ provided.servers old before
    · exact serves _ new
  jobs := by
    intro job member
    rcases s.job_next member with before | ⟨⟨server, there, same⟩, _⟩
    · exact provided.jobs job before
    · exact same ▸ provided.servers server there

/-- In a scene only those registries are served that were put there. -/
theorem Scene.provided_of (acts : List Scene.Act) :
    (Scene.of acts).exchange.Provided fun g => .serve g ∈ acts := by
  have along : ∀ (later : List Scene.Act) (s : Scene), later ⊆ acts →
      s.exchange.Provided (fun g => .serve g ∈ acts) →
      (later.foldl Scene.next s).exchange.Provided fun g => .serve g ∈ acts := by
    intro later
    induction later with
    | nil => exact fun _ _ provided => provided
    | cons a later inductionHypothesis =>
        intro s among provided
        have act : a ∈ acts := among List.mem_cons_self
        have amongLater : later ⊆ acts := fun b member => among (List.mem_cons_of_mem a member)
        refine inductionHypothesis (s.next a) amongLater (provided.next ?_)
        rintro g rfl
        exact act
  exact along acts {} (List.Subset.refl acts) ⟨by simp, by simp⟩

/-- A terminal response with the id is all that is made of what a pursuit can read. -/
theorem Response.collapse_of_terminal {id : String} {r : Response}
    (terminal : r.terminal = true) (own : r.id = id) (rest : List Response) :
    Response.collapse id .null (r :: rest) = .ok r.outcome := by
  unfold Response.collapse Response.outcome
  cases r.error with
  | some error => rw [own]
  | none => simp [terminal]

/-- Outcomes stand in the order of the requests. -/
theorem Pursuit.requests_of_allSettled {pursuits : List Pursuit} {results : List Settled}
    (settled : allSettled? pursuits = some results) :
    results.map Settled.request = pursuits.map Pursuit.request := by
  have entries := allSettled?_eq_some_iff.mp settled
  clear settled
  induction pursuits generalizing results with
  | nil =>
      cases results with
      | nil => rfl
      | cons s rest => cases entries
  | cons p pursuits inductionHypothesis =>
      cases results with
      | nil => cases entries
      | cons s rest =>
          simp only [List.map_cons, List.cons.injEq] at entries
          rw [List.map_cons, List.map_cons, inductionHypothesis entries.2,
            (settled?_eq_some_iff.mp entries.1).1]

/-! ### The caller in the scene -/

/-- An act of another user, where the streams of the pursuits come first. -/
def Scene.Act.shift (places : Nat) : Act → Act
  | .use a => .use (a.shift places)
  | a => a

namespace Caller

/-- The scene with the caller in it: the streams of the pursuits, and then those of others. -/
def whole (e : Caller) : Scene :=
  ⟨e.scene.exchange, e.pursuits.map Pursuit.stream? ++ e.scene.others⟩

/-- An act in the scene is one in the whole scene. -/
theorem whole_act (e : Caller) (a : Scene.Act) :
    (e.turn (.act a)).whole = e.whole.next (a.shift e.pursuits.length) := by
  cases a with
  | serve g => rfl
  | listen n => rfl
  | close n => rfl
  | move m => rfl
  | use a =>
      have receiver : (a.shift e.pursuits.length).receiver? = a.receiver? := by cases a <;> rfl
      have behind := Broker.act_shift e.scene.exchange.bus (e.pursuits.map Pursuit.stream?)
        e.scene.others a
      rw [List.length_map] at behind
      simp only [turn, Scene.next, Scene.Act.shift, Scene.used, receiver, whole, Scene.broker]
      split
      · rfl
      · rw [behind]

/-- A response is due to an id: it is the answer of a served registry to one of the requests, which
carries the id. -/
def Due (served : Registry → Prop) (wanted : List Request) (id : String) (response : Response) :
    Prop :=
  ∃ g q, served g ∧ q ∈ wanted ∧ q.id = id ∧ g.Answers q response

variable {served : Registry → Prop} {wanted : List Request} {e : Caller}

theorem Due.id {id : String} {response : Response} (due : Due served wanted id response) :
    response.id = id := by
  obtain ⟨g, q, _, _, own, answers⟩ := due
  exact answers.id.trans own

theorem Due.terminal {id : String} {response : Response} (due : Due served wanted id response) :
    response.terminal = true := by
  obtain ⟨g, q, _, _, _, answers⟩ := due
  exact answers.terminal

/-- How far a pursuit has come, and what it can read. -/
inductive Stands (served : Registry → Prop) (wanted : List Request) (bus : Bus) (p : Pursuit) :
    Prop where
  | unsent (progress : p.progress = .unsent)
  | waiting {c : Nat} (progress : p.progress = .waiting ⟨⟨p.request.id, .following c⟩, .null⟩)
      (unread : ∀ r ∈ bus.unread ⟨p.request.id, .following c⟩, Due served wanted p.request.id r)
  | failed {error : BrokerError}
      (progress : p.progress = .settled (.error ⟨p.request.id, .broker error⟩))
  | answered {response : Response} (progress : p.progress = .settled response.outcome)
      (due : Due served wanted p.request.id response)

/-- What holds of a caller at every moment while nobody else uses the ids of the requests. -/
structure Sourced (served : Registry → Prop) (wanted : List Request) (e : Caller) : Prop where
  sound : e.whole.Sound
  provided : e.scene.exchange.Provided served
  /-- What waits for a consumer or is handled with an id of the requests is one of them. -/
  queued : ∀ {c : Nat} {q : Request}, q ∈ e.scene.queue c → q.id ∈ wanted.map Request.id →
    q ∈ wanted
  jobs : ∀ job ∈ e.scene.exchange.jobs, job.request.id ∈ wanted.map Request.id →
    job.request ∈ wanted
  requests : e.pursuits.map Pursuit.request = wanted
  stands : ∀ {i : Nat} {p : Pursuit}, e.pursuits[i]? = some p →
    Stands served wanted e.scene.exchange.bus p

namespace Sourced

theorem mem_wanted (sourced : e.Sourced served wanted) {i : Nat} {p : Pursuit}
    (place : e.pursuits[i]? = some p) : p.request ∈ wanted := by
  rw [← sourced.requests]
  exact List.mem_map_of_mem (List.mem_of_getElem? place)

/-- Whatever happens in the scene, while nobody else uses the ids. -/
theorem act (sourced : e.Sourced served wanted) {a : Scene.Act}
    (spares : (Turn.act a).Spares (wanted.map Request.id))
    (serves : ∀ g, a = .serve g → served g) : (e.turn (.act a)).Sourced served wanted where
  sound := by
    rw [whole_act]
    exact sourced.sound.next _
  provided := sourced.provided.next serves
  queued := by
    intro c q member concerned
    rcases e.scene.waiting_next member with before | rfl
    · exact sourced.queued before concerned
    · exact absurd concerned spares
  jobs := by
    intro job member concerned
    rcases e.scene.job_next member with before | ⟨_, c, waits⟩
    · exact sourced.jobs job before concerned
    · exact sourced.queued waits concerned
  requests := sourced.requests
  stands := by
    intro i p there
    have place : e.pursuits[i]? = some p := there
    have concerned := List.mem_map_of_mem (f := Request.id) (sourced.mem_wanted place)
    cases sourced.stands place with
    | unsent progress => exact .unsent progress
    | failed progress => exact .failed progress
    | answered progress due => exact .answered progress due
    | @waiting c progress unread =>
        refine .waiting progress ?_
        intro r member
        have live : e.whole.broker.stream? i = some ⟨p.request.id, .following c⟩ :=
          (broker_stream?_pursuit place).trans (stream?_eq_some_iff.mpr ⟨_, progress⟩)
        have inRange := lt_length_of_pursuit place
        have elsewhere : a.shift e.pursuits.length ≠ .use (.poll i) ∧
            a.shift e.pursuits.length ≠ .use (.drop i) := by
          cases a with
          | use b => cases b <;> simp [Scene.Act.shift, Broker.Action.shift] <;> omega
          | _ => simp [Scene.Act.shift]
        have now : r ∈ (e.whole.next (a.shift e.pursuits.length)).exchange.bus.unread
            ⟨p.request.id, .following c⟩ := by
          rw [← whole_act]
          exact member
        rcases sourced.sound.unread_next live elsewhere now with
          before | ⟨own, alien | ⟨job, there, answers⟩⟩
        · exact unread r before
        · -- Nobody else publishes a response with the id.
          have responds : a = .use (.respond r) := by
            cases a with
            | use b =>
                cases b <;> simp [Scene.Act.shift, Broker.Action.shift] at alien ⊢
                exact alien
            | _ => simp [Scene.Act.shift] at alien
          subst responds
          exact absurd (own ▸ concerned) spares
        · have id : job.request.id = p.request.id := answers.id.symm.trans own
          exact ⟨job.registry, job.request, sourced.provided.jobs job there,
            sourced.jobs job there (id ▸ concerned), id, answers⟩

/-- A look at one pursuit, which leaves what the other ones can read. -/
theorem of_look (sourced : e.Sourced served wanted) {i : Nat} {p q : Pursuit}
    (place : e.pursuits[i]? = some p) (request : q.request = p.request) {bus : Bus}
    (sound : Broker.Sound ⟨bus, e.broker.streams.set i q.stream?⟩)
    (attended : ∀ c, e.scene.exchange.bus.requests.attended c = true →
      bus.requests.attended c = true)
    (queued : ∀ {c : Nat} {r : Request}, r ∈ bus.requests.waiting c →
      r ∈ e.scene.queue c ∨ r = p.request)
    (unread : ∀ {k : Nat} {r : Pursuit} {s : Stream}, k ≠ i → e.pursuits[k]? = some r →
      r.stream? = some s → bus.unread s = e.scene.exchange.bus.unread s)
    (stands : Stands served wanted bus q) :
    Sourced served wanted
      ⟨{ e.scene with exchange := { e.scene.exchange with bus } }, e.pursuits.set i q⟩ where
  sound := by
    rw [← Invariant.streams_set place] at sound
    exact ⟨sound, sourced.sound.orderly.of_bus fun c _ => attended c⟩
  provided := ⟨sourced.provided.servers, sourced.provided.jobs⟩
  queued := by
    intro c r member concerned
    rcases queued member with before | rfl
    · exact sourced.queued before concerned
    · exact sourced.mem_wanted place
  jobs := sourced.jobs
  requests := (Broker.map_set_same place request).trans sourced.requests
  stands := by
    intro k r placeR
    rw [List.getElem?_set] at placeR
    split at placeR
    · split at placeR
      · cases placeR
        exact stands
      · exact absurd placeR (by simp)
    · rename_i places
      cases sourced.stands placeR with
      | unsent progress => exact .unsent progress
      | failed progress => exact .failed progress
      | answered progress due => exact .answered progress due
      | waiting progress readable =>
          have same := unread (fun equal => places equal.symm) placeR
            (stream?_eq_some_iff.mpr ⟨_, progress⟩)
          exact .waiting progress (by rw [same]; exact readable)

/-- A look at a pursuit that waits reads the first answer, if one is there, or sees that none will
come any more. -/
theorem look_waiting (sourced : e.Sourced served wanted) {i c : Nat} {p : Pursuit}
    (place : e.pursuits[i]? = some p)
    (progress : p.progress = .waiting ⟨⟨p.request.id, .following c⟩, .null⟩)
    (unread : ∀ r ∈ e.scene.exchange.bus.unread ⟨p.request.id, .following c⟩,
      Due served wanted p.request.id r) : (e.turn (.look i)).Sourced served wanted := by
  have live : e.broker.stream? i = some ⟨p.request.id, .following c⟩ :=
    (broker_stream?_pursuit place).trans (stream?_eq_some_iff.mpr ⟨_, progress⟩)
  have looked : e.scene.exchange.look p
      = e.scene.exchange.follow p.request ⟨⟨p.request.id, .following c⟩, .null⟩ := by
    unfold Exchange.look
    rw [progress]
  obtain ⟨sound, others⟩ := sourced.sound.broker.await_keeps (n := i)
    (w := ⟨⟨p.request.id, .following c⟩, .null⟩) live
  have result := Bus.await_following (b := e.scene.exchange.bus)
    (s := ⟨p.request.id, .following c⟩) rfl .null
  have requests := Bus.requests_await e.scene.exchange.bus ⟨⟨p.request.id, .following c⟩, .null⟩
  -- Whatever the outcome is, it takes the place of the pursuit.
  have settle : ∀ outcome, (e.scene.exchange.bus.await ⟨⟨p.request.id, .following c⟩, .null⟩).2
      = .ok outcome →
      (∀ bus, Stands served wanted bus ⟨p.request, .settled outcome⟩) →
      (e.turn (.look i)).Sourced served wanted := by
    intro outcome comes stands
    cases awaited : e.scene.exchange.bus.await ⟨⟨p.request.id, .following c⟩, .null⟩ with
    | mk bus got =>
        rw [awaited] at comes requests
        have requests : bus.requests = e.scene.exchange.bus.requests := requests
        obtain rfl : got = .ok outcome := comes
        have broker : e.whole.broker.bus.await ⟨⟨p.request.id, .following c⟩, .null⟩
            = (bus, .ok outcome) := awaited
        rw [broker] at sound others
        have settled : e.scene.exchange.look p
            = ({ e.scene.exchange with bus }, ⟨p.request, .settled outcome⟩) := by
          rw [looked]
          simp only [Exchange.follow, awaited]
        rw [turn_look place settled]
        refine sourced.of_look (q := ⟨p.request, .settled outcome⟩) place rfl sound ?_ ?_ ?_
          (stands bus)
        · intro d attended
          rw [requests]
          exact attended
        · intro d r member
          rw [requests] at member
          exact Or.inl member
        · intro k r s places placeR waiting
          exact others places ((broker_stream?_pursuit placeR).trans waiting)
  cases there : e.scene.exchange.bus.unread ⟨p.request.id, .following c⟩ with
  | nil =>
      rw [there] at result
      cases held : e.scene.exchange.bus.subscriberHeld c with
      | true =>
          have nothing : e.scene.exchange.bus.responses.waiting c = [] := there
          have waits := Bus.await_nothing (b := e.scene.exchange.bus)
            (s := ⟨p.request.id, .following c⟩) rfl held nothing .null
          rw [turn_look_same place]
          · exact sourced
          · rw [looked]
            simp only [Exchange.follow, waits]
            rw [← progress]
      | false =>
          simp only [Response.collapse, held] at result
          exact settle _ result fun bus => .failed rfl
  | cons r rest =>
      have due := unread r (there ▸ List.mem_cons_self)
      rw [there, Response.collapse_of_terminal due.terminal due.id] at result
      exact settle _ result fun bus => .answered rfl due

/-- The first look at a pursuit sends its request, or sees that it is refused. -/
theorem look_unsent (sourced : e.Sourced served wanted) {i : Nat} {p : Pursuit}
    (place : e.pursuits[i]? = some p) (progress : p.progress = .unsent) :
    (e.turn (.look i)).Sourced served wanted := by
  have idle : p.stream? = none := by simp [Pursuit.stream?, progress]
  have refused : ∀ error, e.scene.exchange.bus.send p.request
      = (e.scene.exchange.bus, ⟨p.request.id, .failed error⟩) →
      (e.turn (.look i)).Sourced served wanted := by
    intro error sent
    have looked : e.scene.exchange.look p = (e.scene.exchange,
        ⟨p.request, .settled (.error ⟨p.request.id, .broker error⟩)⟩) := by
      simp [Exchange.look, progress, sent, Exchange.follow, Bus.await_failed]
    rw [turn_look place looked]
    refine sourced.of_look (q := ⟨p.request, .settled (.error ⟨p.request.id, .broker error⟩)⟩)
      place rfl ?_ (fun _ attended => attended) Or.inl (fun _ _ _ => rfl) (.failed rfl)
    rw [← Invariant.streams_set place, Broker.map_set_same place idle.symm]
    exact sourced.sound.broker
  rcases Bus.send_cases e.scene.exchange.bus p.request with
    ⟨_, sent⟩ | ⟨_, _, sent⟩ | ⟨n, _, attended, free, sent⟩
  · exact refused _ sent
  · exact refused _ sent
  · obtain ⟨nothing, held⟩ := Bus.nothing_accept e.scene.exchange.bus n p.request
    have waits := Bus.await_nothing (b := e.scene.exchange.bus.accept n p.request)
      (s := ⟨p.request.id, .following e.scene.exchange.bus.responses.length⟩) rfl held nothing .null
    have looked : e.scene.exchange.look p = ({ e.scene.exchange with
        bus := e.scene.exchange.bus.accept n p.request }, ⟨p.request,
          .waiting ⟨⟨p.request.id, .following e.scene.exchange.bus.responses.length⟩, .null⟩⟩) := by
      simp [Exchange.look, progress, sent, Exchange.follow, waits]
    rw [turn_look place looked]
    refine sourced.of_look (q := ⟨p.request, .waiting
      ⟨⟨p.request.id, .following e.scene.exchange.bus.responses.length⟩, .null⟩⟩)
      place rfl ?_ ?_ ?_ ?_ (.waiting rfl ?_)
    · have inPlace : i < (e.pursuits.map Pursuit.stream?).length := by
        simpa using lt_length_of_pursuit place
      have empty : e.broker.streams[i]? = some none := by
        rw [broker, List.getElem?_append_left inPlace, List.getElem?_map, place, Option.map_some,
          idle]
      exact (sourced.sound.broker.accept n free).handed_to empty
    · intro d was
      rw [Bus.accept, Channels.attended_send]
      exact was
    · intro d r member
      rw [Bus.waiting_accept (Channels.lt_length_of_attended attended)] at member
      split at member
      · rcases List.mem_append.mp member with before | new
        · exact Or.inl before
        · exact Or.inr (List.mem_singleton.mp new)
      · exact Or.inl member
    · intro k r s _ placeR waiting
      exact Broker.Sound.unread_accept e.broker n s p.request
    · intro r member
      rw [Bus.unread_of_following rfl, nothing] at member
      exact absurd member (by simp)

theorem look (sourced : e.Sourced served wanted) (i : Nat) :
    (e.turn (.look i)).Sourced served wanted := by
  cases place : e.pursuits[i]? with
  | none =>
      rw [turn_look_of_none place]
      exact sourced
  | some p =>
      cases sourced.stands place with
      | unsent progress => exact sourced.look_unsent place progress
      | waiting progress unread => exact sourced.look_waiting place progress unread
      | failed progress =>
          rw [look_settled place progress]
          exact sourced
      | answered progress =>
          rw [look_settled place progress]
          exact sourced

/-- Every turn keeps what holds of a caller, and so does every schedule. -/
theorem turn (sourced : e.Sourced served wanted) {t : Turn}
    (spares : t.Spares (wanted.map Request.id)) (serves : ∀ g, t = .act (.serve g) → served g) :
    (e.turn t).Sourced served wanted := by
  cases t with
  | look i => exact sourced.look i
  | act a => exact sourced.act spares fun g same => serves g (same ▸ rfl)

theorem after (sourced : e.Sourced served wanted) {schedule : Nat → Turn}
    (spares : ∀ k, (schedule k).Spares (wanted.map Request.id))
    (serves : ∀ k g, schedule k = .act (.serve g) → served g) (k : Nat) :
    (e.after schedule k).Sourced served wanted := by
  induction k with
  | zero => exact sourced
  | succ k inductionHypothesis => exact inductionHypothesis.turn (spares k) (serves k)

/-- Each outcome is a failure of the broker, or due to the id of the request. -/
theorem results (sourced : e.Sourced served wanted) {results : List Settled}
    (settled : Pursuit.allSettled? e.pursuits = some results) :
    results.map Settled.request = wanted ∧ ∀ s ∈ results,
      (∃ error, s.outcome = .error ⟨s.request.id, .broker error⟩) ∨
        ∃ response, s.outcome = response.outcome ∧ Due served wanted s.request.id response := by
  refine ⟨(Pursuit.requests_of_allSettled settled).trans sourced.requests, ?_⟩
  intro s member
  obtain ⟨p, there, same⟩ : ∃ p ∈ e.pursuits, p.settled? = some s := by
    have entries := Pursuit.allSettled?_eq_some_iff.mp settled
    have listed : some s ∈ e.pursuits.map Pursuit.settled? := entries ▸ List.mem_map_of_mem member
    exact List.mem_map.mp listed
  obtain ⟨request, progress⟩ := Pursuit.settled?_eq_some_iff.mp same
  obtain ⟨i, place⟩ := List.mem_iff_getElem?.mp there
  rw [← request]
  cases sourced.stands place with
  | unsent other => rw [progress] at other; cases other
  | waiting other => rw [progress] at other; cases other
  | failed other =>
      rw [progress] at other
      exact Or.inl ⟨_, Progress.settled.inj other⟩
  | answered other due =>
      rw [progress] at other
      exact Or.inr ⟨_, Progress.settled.inj other, due⟩

end Sourced

/-- What holds of a caller at every moment holds when the caller sets out with requests whose ids
are not in use. -/
theorem sourced_start {s : Scene} (sound : s.Sound) (provided : s.exchange.Provided served)
    {requests : List Request} (free : ∀ q ∈ requests, ¬ s.InFlight q.id) :
    (start s requests).Sourced served requests := by
  have unused := not_inFlight_of_mem free
  refine ⟨⟨?_, sound.orderly⟩, provided, ?_, ?_, requests_start s requests,
    fun place => .unsent (unsent_start place)⟩
  · rw [whole, streams_start]
    exact sound.broker.behind_vacant requests.length
  · intro c q waits concerned
    exact absurd (Or.inr (Or.inl ⟨c, q, waits, rfl⟩)) (unused q.id concerned)
  · intro job member concerned
    exact absurd (Or.inr (Or.inr ⟨job, member, rfl⟩)) (unused job.request.id concerned)

end Caller
end EventDispatch
