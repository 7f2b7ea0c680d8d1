import EventDispatch.Proofs.Service.Attending
/-!
The channel between those who send and a loop.

Purpose: what an act of a scene does to the requests that wait at one channel, and to the loop of
one server. A request that is accepted is appended at the channel of the attached consumer; only the
loop at a channel, or the one from outside who attached there, takes from it. The loop of a server
ends by itself or with its server; nobody else touches it.

Main exports: `Scene.queue`, `Scene.accepted?`, `Scene.received?`, `Scene.queue_next`,
`Scene.queue_next_receive`, `Scene.consumer_of_next`, `Scene.server_next`, `Scene.next_stop`.
-/

namespace EventDispatch

theorem Bus.length_receiveRequest (b : Bus) (c : Nat) :
    (b.receiveRequest c).1.requests.length = b.requests.length := by
  simp only [receiveRequest, Channels.receive]
  split <;> simp

/-- No channel of a consumer goes. -/
theorem Broker.length_act (b : Broker) (a : Action) :
    b.bus.requests.length ≤ (b.act a).1.bus.requests.length := by
  cases a with
  | listen => simp [act, Bus.attach]
  | receive d => exact Nat.le_of_eq (Bus.length_receiveRequest _ _).symm
  | leave d => simp [act, Bus.releaseConsumer, Channels.release]
  | send r =>
      rcases Bus.send_cases b.bus r with ⟨_, result⟩ | ⟨_, _, result⟩ | ⟨_, _, _, _, result⟩
      · simp [act, result]
      · simp [act, result]
      · simp [act, result, Bus.accept, Channels.send]
  | respond r => simp [act]
  | close => exact Nat.le_refl _
  | poll n =>
      simp only [act]
      split <;> simp
  | drop n =>
      simp only [act]
      split <;> simp

namespace Exchange

variable {x : Exchange}

theorem waiting_listen (x : Exchange) (m c : Nat) :
    (x.listen m).bus.requests.waiting c = x.bus.requests.waiting c := by
  unfold listen
  split
  · rfl
  · split
    · rfl
    · exact Channels.waiting_append_new _ _

/-- Closing a server leaves what waits at a channel, unless its loop is there. -/
theorem waiting_closeServer (x : Exchange) (m c : Nat) :
    (x.closeServer m).bus.requests.waiting c = x.bus.requests.waiting c ∨
      (x.closeServer m).bus.requests.waiting c = [] ∧
        ∃ server loop, x.runningLoop? m = some (server, loop) ∧ loop.channel = c := by
  unfold closeServer
  split
  · exact Or.inl rfl
  · rename_i server entry
    dsimp only
    split
    · rename_i loop held
      split
      · rename_i running
        simp only [Bus.releaseConsumer]
        rw [Channels.waiting_release]
        split
        · rename_i own
          exact Or.inr ⟨rfl, server, loop,
            runningLoop?_eq_some_iff.mpr ⟨entry, held, running⟩, own.symm⟩
        · exact Or.inl rfl
      · exact Or.inl rfl
    · exact Or.inl rfl

end Exchange

namespace Scene

/-- The requests that wait at a channel. -/
def queue (s : Scene) (c : Nat) : List Request := s.exchange.bus.requests.waiting c

/-- The request that an act gets accepted at a channel. -/
def accepted? (s : Scene) (c : Nat) : Act → Option Request
  | .use (.send r) =>
    if s.exchange.bus.consumer = some c ∧ (s.exchange.bus.send r).2.unfinished then some r else none
  | _ => none

/-- The request that the loop of a server receives by an act: the one whose handling starts. -/
def received? (s : Scene) (n : Nat) : Act → Option Request
  | .move (.receive m) =>
    if m = n then (s.exchange.move (.receive n)).bind fun y => y.jobs.getLast?.map Job.request
    else none
  | _ => none

variable {s : Scene} {n c : Nat}

/-- Where another consumer, or none, is attached, nothing is accepted at a channel. -/
theorem accepted?_of_gone (gone : s.exchange.bus.consumer ≠ some c) (a : Act) :
    s.accepted? c a = none := by
  unfold accepted?
  split
  · exact if_neg (fun attached => gone attached.1)
  · rfl

theorem received?_of_ne {a : Act} (other : a ≠ .move (.receive n)) : s.received? n a = none := by
  unfold received?
  split
  · rename_i m
    have differs : m ≠ n := fun same => other (by rw [same])
    rw [if_neg differs]
  · rfl

/-- Who may take from a channel, or give it up: the loop there, with its server, or the one from
outside who attached there. -/
inductive Access (s : Scene) (c : Nat) (a : Act) : Prop where
  | loop {m : Nat} {server : Server} {loop : Loop}
      (running : s.exchange.runningLoop? m = some (server, loop)) (own : loop.channel = c)
      (act : a = .move (.receive m) ∨ a = .move (.stop m) ∨ a = .close m)
  | outside {b : Broker.Action} (act : a = .use b) (receiver : b.receiver? = some c)
      (foreign : s.exchange.owns c = false)

theorem queue_next_send (s : Scene) (c : Nat) (r : Request) :
    (s.next (.use (.send r))).queue c
      = s.queue c ++ (s.accepted? c (.use (.send r))).toList := by
  have foreign : (Broker.Action.send r).receiver?.any s.exchange.owns = false := rfl
  simp only [Scene.next, Scene.used, foreign, queue, accepted?, Broker.act, broker,
    Bool.false_eq_true, if_false]
  rcases Bus.send_cases s.exchange.bus r with
    ⟨_, result⟩ | ⟨_, _, result⟩ | ⟨d, attached, attended, _, result⟩
  · simp [result, Stream.unfinished]
  · simp [result, Stream.unfinished]
  · have inRange := Channels.lt_length_of_attended attended
    rw [result, Bus.waiting_accept inRange]
    by_cases own : c = d
    · simp [own, attached, Stream.unfinished]
    · have differs : ¬ d = c := fun same => own same.symm
      simp [own, differs, attached]

/-- Where a request was accepted, it is appended; otherwise what waits at a channel stays, or
someone with access to it takes some. -/
theorem queue_next (s : Scene) (c : Nat) (a : Act) :
    (s.next a).queue c = s.queue c ++ (s.accepted? c a).toList ∨
      s.accepted? c a = none ∧ (s.next a).queue c <:+ s.queue c ∧ s.Access c a := by
  have unchanged : ∀ {t : Scene}, t.queue c = s.queue c → s.accepted? c a = none →
      t.queue c = s.queue c ++ (s.accepted? c a).toList := by
    intro t same none
    rw [same, none]
    exact (List.append_nil _).symm
  cases a with
  | serve g => exact Or.inl (unchanged rfl rfl)
  | listen m => exact Or.inl (unchanged (s.exchange.waiting_listen m c) rfl)
  | close m =>
      rcases s.exchange.waiting_closeServer m c with same | ⟨none, server, loop, running, own⟩
      · exact Or.inl (unchanged same rfl)
      · refine Or.inr ⟨rfl, ?_, .loop running own (Or.inr (Or.inr rfl))⟩
        simp only [Scene.next, queue, none]
        exact List.nil_suffix
  | move m =>
      simp only [Scene.next]
      cases moved : s.exchange.move m with
      | none => exact Or.inl (unchanged rfl rfl)
      | some y =>
          rcases Exchange.move_cases moved with
            ⟨k, server, loop, request, rfl, running, _, rfl⟩ |
            ⟨k, server, loop, rfl, running, _, rfl⟩ |
            ⟨j, job, response, rfl, _, _, rfl⟩ | ⟨j, job, rfl, _, _, rfl⟩
          · simp only [Option.getD_some, queue, Bus.waiting_receiveRequest]
            split
            · rename_i own
              exact Or.inr ⟨rfl, List.tail_suffix _, .loop running own.symm (Or.inl rfl)⟩
            · exact Or.inl (unchanged (t := s) rfl rfl)
          · simp only [Option.getD_some, queue, Exchange.endLoop, Bus.releaseConsumer,
              Channels.waiting_release]
            split
            · rename_i own
              exact Or.inr ⟨rfl, List.nil_suffix, .loop running own.symm (Or.inr (Or.inl rfl))⟩
            · exact Or.inl (unchanged (t := s) rfl rfl)
          · left
            refine unchanged ?_ rfl
            simp only [Option.getD_some, queue, Bus.requests_publishResponse]
          · exact Or.inl (unchanged rfl rfl)
  | use b =>
      by_cases sends : ∃ r, b = .send r
      · obtain ⟨r, rfl⟩ := sends
        exact Or.inl (queue_next_send s c r)
      · have none : s.accepted? c (.use b) = none := by
          cases b with
          | send r => exact absurd ⟨r, rfl⟩ sends
          | _ => rfl
        simp only [Scene.next, Scene.used]
        split
        · exact Or.inl (unchanged rfl none)
        · rename_i foreign
          rcases Broker.waiting_act s.broker b c with
            same | ⟨r, sent, _⟩ | ⟨receiver, fewer⟩
          · exact Or.inl (unchanged same none)
          · exact absurd ⟨r, sent⟩ sends
          · refine Or.inr ⟨none, fewer, .outside rfl receiver ?_⟩
            simpa [receiver] using foreign

/-- The loop at a channel takes what waits there first. -/
theorem queue_next_receive {server : Server} {loop : Loop}
    (running : s.exchange.runningLoop? n = some (server, loop)) :
    s.received? n (.move (.receive n)) = (s.queue loop.channel).head? ∧
      (s.next (.move (.receive n))).queue loop.channel = (s.queue loop.channel).tail := by
  simp only [Scene.next, received?, if_true]
  cases waiting : s.queue loop.channel with
  | nil =>
      have nothing : s.exchange.move (.receive n) = none := by
        cases moved : s.exchange.move (.receive n) with
        | none => rfl
        | some y =>
            rcases Exchange.move_cases moved with
              ⟨_, _, _, request, ⟨⟩, runs, got, _⟩ | ⟨_, _, _, ⟨⟩, _⟩ | ⟨_, _, _, ⟨⟩, _⟩ |
              ⟨_, _, ⟨⟩, _⟩
            cases running.symm.trans runs
            have first : (s.queue loop.channel).head? = some request :=
              Bus.receiveRequest_eq_item_iff.mp got
            rw [waiting] at first
            exact absurd first (by simp)
      rw [nothing]
      exact ⟨rfl, waiting⟩
  | cons r later =>
      have got : (s.exchange.bus.receiveRequest loop.channel).2 = .item r :=
        Bus.receiveRequest_eq_item_iff.mpr (congrArg List.head? waiting)
      have left : (s.exchange.bus.receiveRequest loop.channel).1.requests.waiting loop.channel
          = later := by
        rw [Bus.waiting_receiveRequest, if_pos rfl]
        exact congrArg List.tail waiting
      rw [Exchange.move_receive running got]
      simp [queue, left]

/-- A channel that is there is not attached again. -/
theorem consumer_of_next (inRange : c < s.exchange.bus.requests.length) (a : Act)
    (attached : (s.next a).exchange.bus.consumer = some c) :
    s.exchange.bus.consumer = some c := by
  cases a with
  | serve g => exact attached
  | listen m =>
      have same : s.exchange.listen m = s.exchange := Exchange.listen_same inRange attached
      simpa only [Scene.next, same] using attached
  | close m =>
      have same : s.exchange.closeServer m = s.exchange := Exchange.closeServer_same attached
      simpa only [Scene.next, same] using attached
  | move m =>
      simp only [Scene.next] at attached
      cases moved : s.exchange.move m with
      | none =>
          rw [moved] at attached
          exact attached
      | some y =>
          rw [moved] at attached
          rcases Exchange.move_cases moved with
            ⟨_, _, _, _, rfl, _, _, rfl⟩ | ⟨_, _, _, rfl, _, _, rfl⟩ |
            ⟨_, _, response, rfl, _, _, rfl⟩ | ⟨_, _, rfl, _, _, rfl⟩
          · exact attached
          · exact attached
          · exact (Bus.consumer_publishResponse _ response).symm.trans attached
          · exact attached
  | use b =>
      simp only [Scene.next, Scene.used] at attached
      split at attached
      · exact attached
      · obtain ⟨attach, close⟩ := Broker.not_replaced (b := s.broker) inRange attached
        exact (Broker.consumer_act attach close).symm.trans attached

/-- Channels stay. -/
theorem inRange_next (inRange : c < s.exchange.bus.requests.length) (a : Act) :
    c < (s.next a).exchange.bus.requests.length := by
  refine Nat.lt_of_lt_of_le inRange ?_
  cases a with
  | serve g => exact Nat.le_refl _
  | listen m =>
      simp only [Scene.next, Exchange.listen]
      split
      · exact Nat.le_refl _
      · split
        · exact Nat.le_refl _
        · simp [Bus.attach]
  | close m =>
      simp only [Scene.next, Exchange.closeServer]
      split
      · exact Nat.le_refl _
      · split
        · split
          · simp [Bus.releaseConsumer, Channels.release, Bus.close, Bus.clearPending, Bus.detach]
          · exact Nat.le_refl _
        · exact Nat.le_refl _
  | move m =>
      simp only [Scene.next]
      cases moved : s.exchange.move m with
      | none => exact Nat.le_refl _
      | some y =>
          rcases Exchange.move_cases moved with
            ⟨_, _, _, _, rfl, _, _, rfl⟩ | ⟨_, _, _, rfl, _, _, rfl⟩ |
            ⟨_, _, response, rfl, _, _, rfl⟩ | ⟨_, _, rfl, _, _, rfl⟩
          · exact Nat.le_of_eq (Bus.length_receiveRequest _ _).symm
          · simp [Exchange.endLoop, Bus.releaseConsumer, Channels.release]
          · simp
          · exact Nat.le_refl _
  | use b =>
      simp only [Scene.next, Scene.used]
      split
      · exact Nat.le_refl _
      · exact Broker.length_act s.broker b

/-- The loop of a server is touched by nobody until it ends by itself or its server is closed. -/
theorem server_next {server : Server} {loop : Loop} (place : s.exchange.servers[n]? = some server)
    (held : server.loop = some loop) {a : Act} (closes : a ≠ .close n)
    (stops : a ≠ .move (.stop n)) : (s.next a).exchange.servers[n]? = some server := by
  have inRange := (List.getElem?_eq_some_iff.mp place).1
  cases a with
  | serve g =>
      simp only [Scene.next, Exchange.addServer]
      rw [List.getElem?_append_left inRange]
      exact place
  | listen m =>
      simp only [Scene.next, Exchange.listen]
      split
      · exact place
      · rename_i found entry
        split
        · exact place
        · rename_i idle
          have differs : m ≠ n := by
            rintro rfl
            cases place.symm.trans entry
            exact idle (by simp [held])
          rw [List.getElem?_set_ne differs]
          exact place
  | close m =>
      have differs : m ≠ n := fun same => closes (by rw [same])
      simp only [Scene.next, Exchange.closeServer]
      split
      · exact place
      · split <;> rw [List.getElem?_set_ne differs] <;> exact place
  | move m =>
      simp only [Scene.next]
      cases moved : s.exchange.move m with
      | none => exact place
      | some y =>
          rcases Exchange.move_cases moved with
            ⟨_, _, _, _, rfl, _, _, rfl⟩ | ⟨k, found, ending, rfl, _, _, rfl⟩ |
            ⟨_, _, _, rfl, _, _, rfl⟩ | ⟨_, _, rfl, _, _, rfl⟩
          · exact place
          · have differs : k ≠ n := fun same => stops (by rw [same])
            simp only [Option.getD_some, Exchange.endLoop]
            rw [List.getElem?_set_ne differs]
            exact place
          · exact place
          · exact place
  | use b =>
      simp only [Scene.next, Scene.used]
      split <;> exact place

/-- The loop of a server ends by itself when its server was told to stop, or when its channel is
disconnected. -/
theorem next_stop (s : Scene) (n : Nat) :
    s.next (.move (.stop n)) = s ∨ ∃ server loop,
      s.exchange.runningLoop? n = some (server, loop) ∧
      (server.stopped = true ∨ (s.exchange.bus.receiveRequest loop.channel).2 = .disconnected) ∧
      s.next (.move (.stop n)) = { s with exchange := s.exchange.endLoop n server loop } := by
  simp only [Scene.next]
  cases moved : s.exchange.move (.stop n) with
  | none => exact Or.inl rfl
  | some y =>
      rcases Exchange.move_cases moved with
        ⟨_, _, _, _, ⟨⟩, _⟩ | ⟨_, server, loop, ⟨⟩, running, reason, rfl⟩ | ⟨_, _, _, ⟨⟩, _⟩ |
        ⟨_, _, ⟨⟩, _⟩
      exact Or.inr ⟨server, loop, running, reason, rfl⟩

end Scene
end EventDispatch
