import EventDispatch.Proofs.Service.CallerPolls
/-!
What a turn does for the pursuits of a caller.

Purpose: pursuits only ever go forward. A turn leaves a pursuit as it is, sends it or settles it; a
subscription that is over does not come back; a request that waits in front of others is received
before them, and then is a job.

Main exports: `Caller.Effect`, `Caller.Invariant.effect`, `Caller.Invariant.serves_of_turn`,
`Caller.Invariant.queue_turn`, `Caller.Invariant.pursuit_turn`.
-/

namespace EventDispatch

namespace Bus

/-- Following a stream looks at it and gives it up, and does nothing else. -/
theorem follow_keeps {P : Bus → Prop} (poll : ∀ {b : Bus} (s : Stream), P b → P (b.poll s).1)
    (drop : ∀ {b : Bus} (s : Stream), P b → P (b.drop s)) (fuel : Nat) {b : Bus} (w : Waiter)
    (holds : P b) : P (b.follow fuel w).1 := by
  induction fuel generalizing b w with
  | zero => exact holds
  | succ fuel inductionHypothesis =>
      have polled := poll w.stream holds
      unfold follow
      cases look : b.poll w.stream with
      | mk d rest =>
          obtain ⟨stream, result⟩ := rest
          rw [look] at polled
          cases result with
          | waiting => exact polled
          | failed error => exact drop stream polled
          | ended => exact drop stream polled
          | item r =>
              simp only
              split
              · exact drop stream polled
              · split
                · exact drop stream polled
                · exact inductionHypothesis _ polled

/-- Following a stream subscribes to nothing. -/
theorem serves_of_follow {fuel : Nat} {b : Bus} {w : Waiter} {t : Stream}
    (served : (b.follow fuel w).1.serves t = true) : b.serves t = true := by
  revert served
  apply follow_keeps (P := fun d => d.serves t = true → b.serves t = true) _ _ fuel w id
  · intro d s before served
    rw [serves_congr (pending_poll d s) t] at served
    exact before served
  · intro d s before served
    have law := Broker.Sound.serves_drop ⟨d, []⟩ s t
    simp only at law
    rw [law, Bool.and_eq_true] at served
    exact before served.1

/-- Following a stream leaves the consumers' side of the bus. -/
theorem requests_follow (fuel : Nat) (b : Bus) (w : Waiter) :
    (b.follow fuel w).1.requests = b.requests :=
  follow_keeps (P := fun d => d.requests = b.requests)
    (fun s same => (requests_poll _ s).trans same)
    (fun s same => (requests_drop _ s).trans same) fuel w rfl

theorem consumer_follow (fuel : Nat) (b : Bus) (w : Waiter) :
    (b.follow fuel w).1.consumer = b.consumer :=
  follow_keeps (P := fun d => d.consumer = b.consumer)
    (fun s same => (consumer_poll _ s).trans same)
    (fun s same => (consumer_drop _ s).trans same) fuel w rfl

theorem requests_await (b : Bus) (w : Waiter) : (b.await w).1.requests = b.requests :=
  requests_follow _ b w

theorem consumer_await (b : Bus) (w : Waiter) : (b.await w).1.consumer = b.consumer :=
  consumer_follow _ b w

end Bus

namespace Exchange

theorem bus_follow (x : Exchange) (request : Request) (w : Waiter) :
    (x.follow request w).1.bus = (x.bus.await w).1 := by
  unfold follow
  cases awaited : x.bus.await w with
  | mk bus result => cases result <;> rfl

/-- The bus after a look at a pursuit: its request may have been sent, its stream is followed. -/
theorem bus_look (x : Exchange) (p : Pursuit) :
    (x.look p).1.bus = x.bus ∨
    (∃ w, (x.look p).1.bus = (x.bus.await w).1) ∨
    ∃ w, (x.look p).1.bus = ((x.bus.send p.request).1.await w).1 := by
  unfold look
  cases p.progress with
  | unsent => exact Or.inr (Or.inr ⟨_, bus_follow _ _ _⟩)
  | waiting w => exact Or.inr (Or.inl ⟨w, bus_follow _ _ _⟩)
  | settled outcome => exact Or.inl rfl

end Exchange

namespace Caller

variable {e : Caller} {n c : Nat} {g : Registry} {wanted : List Request}

theorem bus_turn_look {k : Nat} {p : Pursuit} (place : e.pursuits[k]? = some p) :
    (e.turn (.look k)).scene.exchange.bus = (e.scene.exchange.look p).1.bus := by
  rw [turn_look place (x := (e.scene.exchange.look p).1) (q := (e.scene.exchange.look p).2) rfl]

/-- What the exchange can be after a turn that leaves the consumer. -/
inductive Effect (e : Caller) (c : Nat) (t : Turn) (y : Exchange) : Prop where
  | nothing (bus : y.bus = e.scene.exchange.bus)
  | followed (w : Waiter) (bus : y.bus = (e.scene.exchange.bus.await w).1)
  | sent (r : Request) (w : Waiter) (bus : y.bus = ((e.scene.exchange.bus.send r).1.await w).1)
  | received {k : Nat} {server : Server} {loop : Loop} {request : Request}
      (turn : t = .act (.move (.receive k)))
      (running : e.scene.exchange.runningLoop? k = some (server, loop))
      (got : (e.scene.exchange.bus.receiveRequest loop.channel).2 = .item request)
      (bus : y.bus = (e.scene.exchange.bus.receiveRequest loop.channel).1)
      (started : ∃ job ∈ y.jobs, job.request = request)
  | left {d : Nat} (other : d ≠ c) (bus : y.bus = e.scene.exchange.bus.releaseConsumer d)
  | published (response : Response) (bus : y.bus = e.scene.exchange.bus.publishResponse response)
  | used {a : Broker.Action} (receiver : a.receiver? ≠ some c)
      (bus : y.bus = (e.scene.broker.act a).1.bus)

namespace Invariant

/-- Every turn that leaves the consumer has one of these effects. -/
theorem effect (kept : e.Invariant n g c wanted) {t : Turn}
    (consumer : (e.turn t).scene.exchange.bus.consumer = some c) :
    Effect e c t (e.turn t).scene.exchange := by
  cases t with
  | look k =>
      cases found : e.pursuits[k]? with
      | none =>
          rw [turn_look_of_none found]
          exact .nothing rfl
      | some q =>
          have bus := bus_turn_look found
          rcases e.scene.exchange.bus_look q with same | ⟨w, followed⟩ | ⟨w, followed⟩
          · exact .nothing (bus.trans same)
          · exact .followed w (bus.trans followed)
          · exact .sent q.request w (bus.trans followed)
  | act a =>
      have step : (e.turn (.act a)).scene = e.scene.next a := rfl
      rw [step] at consumer ⊢
      cases a with
      | serve registry => exact .nothing rfl
      | listen m =>
          have same := Exchange.listen_same (kept.attending.inRange kept.orderly) consumer
          exact .nothing (congrArg Exchange.bus same)
      | close m =>
          have same := Exchange.closeServer_same consumer
          exact .nothing (congrArg Exchange.bus same)
      | move m =>
          simp only [Scene.next]
          cases moved : e.scene.exchange.move m with
          | none => exact .nothing rfl
          | some y =>
              rcases Exchange.move_cases moved with
                ⟨k, server, loop, request, rfl, running, got, rfl⟩ |
                ⟨k, server, loop, rfl, running, reason, rfl⟩ |
                ⟨j, job, response, rfl, _, _, rfl⟩ | ⟨j, job, rfl, _, _, rfl⟩
              · exact .received rfl running got rfl ⟨_, List.mem_concat_self, rfl⟩
              · exact .left (kept.attending.not_stopping kept.orderly running reason).2 rfl
              · exact .published response rfl
              · exact .nothing rfl
      | use a =>
          simp only [Scene.next, Scene.used]
          split
          · exact .nothing rfl
          · rename_i foreign
            refine .used ?_ rfl
            intro receiver
            rw [receiver] at foreign
            exact foreign kept.attending.owns

/-- A subscription that is over does not come back. -/
theorem serves_of_turn (kept : e.Invariant n g c wanted) {t : Turn}
    (consumer : (e.turn t).scene.exchange.bus.consumer = some c) {i : Nat} {p : Pursuit}
    {s : Stream} (place : e.pursuits[i]? = some p) (waiting : p.stream? = some s)
    (served : (e.turn t).scene.exchange.bus.serves s = true) :
    e.scene.exchange.bus.serves s = true := by
  have live := (kept.live place waiting).1
  have before : ∀ a : Broker.Action, (e.broker.act a).1.bus.serves s = true →
      e.scene.exchange.bus.serves s = true := fun a held => kept.sound.serves_of_act live held
  cases kept.effect consumer with
  | nothing bus =>
      rw [bus] at served
      exact served
  | followed w bus =>
      rw [bus] at served
      exact Bus.serves_of_follow served
  | sent r w bus =>
      rw [bus] at served
      exact before (.send r) (Bus.serves_of_follow served)
  | received _ _ _ bus =>
      rw [bus] at served
      exact served
  | left _ bus =>
      rw [bus] at served
      exact served
  | published response bus =>
      rw [bus] at served
      exact before (.respond response) served
  | @used a _ bus =>
      apply before (a.shift (e.pursuits.map Pursuit.stream?).length)
      rw [broker, Broker.act_shift e.scene.exchange.bus (e.pursuits.map Pursuit.stream?)]
      rw [bus] at served
      exact served

/-- The requests in front of the loop that is attended to: some are appended, or the loop takes the
first one, which is a job from then on. -/
theorem queue_turn (kept : e.Invariant n g c wanted) {t : Turn}
    (consumer : (e.turn t).scene.exchange.bus.consumer = some c) :
    (∃ more, (e.turn t).scene.exchange.bus.requests.waiting c
      = e.scene.exchange.bus.requests.waiting c ++ more) ∨
    (t = .act (.move (.receive n)) ∧ ∃ q, e.scene.exchange.bus.requests.waiting c
      = q :: (e.turn t).scene.exchange.bus.requests.waiting c ∧
        ∃ job ∈ (e.turn t).scene.exchange.jobs, job.request = q) := by
  have acted : ∀ (b : Broker) (a : Broker.Action), a.receiver? ≠ some c →
      ∃ more, (b.act a).1.bus.requests.waiting c = b.bus.requests.waiting c ++ more := by
    intro b a receiver
    rcases Broker.waiting_act b a c with same | ⟨r, _, _, appended⟩ | ⟨received, _⟩
    · exact ⟨[], same.trans (List.append_nil _).symm⟩
    · exact ⟨[r], appended⟩
    · exact absurd received receiver
  have unchanged : e.scene.exchange.bus.requests.waiting c
      = e.scene.exchange.bus.requests.waiting c ++ [] := (List.append_nil _).symm
  cases kept.effect consumer with
  | nothing bus =>
      rw [bus]
      exact Or.inl ⟨[], unchanged⟩
  | followed w bus =>
      rw [bus, Bus.requests_await]
      exact Or.inl ⟨[], unchanged⟩
  | sent r w bus =>
      rw [bus, Bus.requests_await]
      exact Or.inl (acted e.scene.broker (.send r) (by simp [Broker.Action.receiver?]))
  | @received k server loop request turn running got bus started =>
      rw [bus, Bus.waiting_receiveRequest]
      by_cases own : c = loop.channel
      · right
        obtain ⟨_, _, ownRunning, _, _, channel⟩ := kept.attending.runs
        have places := kept.orderly.apart running ownRunning (own.symm.trans channel.symm)
        have first := Bus.receiveRequest_eq_item_iff.mp got
        rw [← own] at first
        refine ⟨by rw [turn, places], request, ?_, started⟩
        rw [if_pos own]
        exact (List.cons_head?_tail first).symm
      · rw [if_neg own]
        exact Or.inl ⟨[], unchanged⟩
  | left other bus =>
      rw [bus, Bus.releaseConsumer, Channels.waiting_release, if_neg other.symm]
      exact Or.inl ⟨[], unchanged⟩
  | published response bus =>
      rw [bus]
      exact Or.inl (acted e.scene.broker (.respond response) (by simp [Broker.Action.receiver?]))
  | @used a receiver bus =>
      rw [bus]
      exact Or.inl (acted e.scene.broker a receiver)

/-- The loop that is attended to takes the first request, which is a job from then on. -/
theorem receive_turn (kept : e.Invariant n g c wanted) {q : Request} {rest : List Request}
    (waiting : e.scene.exchange.bus.requests.waiting c = q :: rest) :
    (e.scene.exchange.move (.receive n)).isSome = true ∧
      (e.turn (.act (.move (.receive n)))).scene.exchange.bus.requests.waiting c = rest ∧
      ∃ job ∈ (e.turn (.act (.move (.receive n)))).scene.exchange.jobs, job.request = q := by
  obtain ⟨server, loop, running, _, _, rfl⟩ := kept.attending.runs
  have got : (e.scene.exchange.bus.receiveRequest loop.channel).2 = .item q :=
    Bus.receiveRequest_eq_item_iff.mpr (by rw [waiting]; rfl)
  have moved := Exchange.move_receive running got
  have step : (e.turn (.act (.move (.receive n)))).scene.exchange
      = (e.scene.exchange.move (.receive n)).getD e.scene.exchange := rfl
  rw [step, moved]
  refine ⟨rfl, ?_, _, List.mem_concat_self, rfl⟩
  simp only [Option.getD_some, Bus.waiting_receiveRequest, if_true, waiting, List.tail_cons]

/-- When the job of a request of the list ends, nothing is under way for its id. -/
theorem finish_turn (kept : e.Invariant n g c wanted) {j : Nat} {job : Job} {response : Response}
    (found : e.scene.exchange.jobs[j]? = some job)
    (concerned : job.request.id ∈ wanted.map Request.id)
    (handled : job.registry.handle job.request = .answered response) :
    (e.turn (.act (.move (.finish j)))).scene.exchange.underWay c job.request.id = [] := by
  have step : (e.turn (.act (.move (.finish j)))).scene.exchange
      = (e.scene.exchange.move (.finish j)).getD e.scene.exchange := rfl
  rw [step, Exchange.move_finish found handled]
  obtain ⟨_, taken⟩ := kept.attending.finish found
    (Bus.requests_publishResponse e.scene.exchange.bus response)
    (Bus.consumer_publishResponse e.scene.exchange.bus response)
  have gone := taken job.request.id
  rw [(kept.wanted_of_job (List.mem_of_getElem? found) concerned).2] at gone
  simpa using gone

/-- A turn leaves a pursuit as it is, or is a look that sends it or settles it. -/
theorem pursuit_turn (kept : e.Invariant n g c wanted) (t : Turn) {i : Nat} {p : Pursuit}
    (place : e.pursuits[i]? = some p) :
    (e.turn t).pursuits[i]? = some p ∨
      (t = .look i ∧ ∃ q, (e.turn t).pursuits[i]? = some q ∧
        ((p.progress = .unsent ∧ q.progress ≠ .unsent) ∨
          ∃ outcome, q.progress = .settled outcome)) := by
  cases t with
  | act a => exact Or.inl place
  | look k =>
      by_cases own : k = i
      · subst own
        cases kept.phase place with
        | unsent progress =>
            obtain ⟨_, q, sent, going⟩ := kept.look_unsent place progress
            exact Or.inr ⟨rfl, q, sent, Or.inl ⟨progress, going⟩⟩
        | asked progress _ served nothing =>
            rw [kept.look_asked place progress served nothing]
            exact Or.inl place
        | answered progress same _ arrived answers =>
            have settled := (kept.look_answered place progress same arrived answers).2
            exact Or.inr ⟨rfl, _, settled, Or.inr ⟨_, rfl⟩⟩
        | settled progress =>
            rw [look_settled place progress]
            exact Or.inl place
      · left
        cases found : e.pursuits[k]? with
        | none =>
            rw [turn_look_of_none found]
            exact place
        | some q =>
            rw [turn_look found (x := (e.scene.exchange.look q).1)
              (q := (e.scene.exchange.look q).2) rfl]
            simp only [List.getElem?_set_ne own]
            exact place

/-- What is settled stays as it is. -/
theorem settled_turn (kept : e.Invariant n g c wanted) (t : Turn) {i : Nat} {p : Pursuit}
    {outcome : Outcome} (place : e.pursuits[i]? = some p)
    (progress : p.progress = .settled outcome) : (e.turn t).pursuits[i]? = some p := by
  rcases kept.pursuit_turn t place with same | ⟨looked, _⟩
  · exact same
  · rw [looked, look_settled place progress]
    exact place

end Invariant
end Caller
end EventDispatch
