import EventDispatch.Proofs.Service.Queue
import Mathlib.Data.List.Infix
import Mathlib.Data.Nat.Find
/-!
When listening works.

Purpose: a server that begins to listen is meant to receive every request that is accepted from then
on, until the broker is closed or another consumer takes its place. It does so exactly if it was
never told to stop and either holds no loop or is listening already. A loop that has ended stays in
its place until its server is closed, and keeps the server from listening again; a server that was
closed can listen again, but its new loop may end at once.

What carries the proof: until its server is closed, a loop that was not told to stop ends only after
its channel is disconnected and empty. Meanwhile what was accepted is what was received, followed by
what still waits.

Main exports: `Scene.after`, `Scene.accepted`, `Scene.received`, `Scene.Attentive`, `Scene.Works`,
`Exchange.CanListen`, `Scene.listen_works_iff`, `Scene.listen_in_vain`.
-/

namespace EventDispatch

namespace Scene

/-- The scene after the first acts of a schedule. -/
def after (s : Scene) (acts : Nat → Act) : Nat → Scene
  | 0 => s
  | k + 1 => (s.after acts k).next (acts k)

/-- The requests accepted at a channel before a moment, in order. -/
def accepted (s : Scene) (c : Nat) (acts : Nat → Act) : Nat → List Request
  | 0 => []
  | k + 1 => s.accepted c acts k ++ ((s.after acts k).accepted? c (acts k)).toList

/-- The requests that the loop of a server received before a moment, in order. -/
def received (s : Scene) (n : Nat) (acts : Nat → Act) : Nat → List Request
  | 0 => []
  | k + 1 => s.received n acts k ++ ((s.after acts k).received? n (acts k)).toList

/-- The loop of a server gets its turn: at any moment there is a later one at which it looks for a
request, or has none to take. -/
def Attentive (s : Scene) (n : Nat) (acts : Nat → Act) : Prop :=
  ∀ k, ∃ l, k ≤ l ∧
    (acts l = .move (.receive n) ∨ (s.after acts l).exchange.move (.receive n) = none)

/-- A server works as the consumer at a channel, whatever happens from now on. -/
structure Works (s : Scene) (n c : Nat) : Prop where
  /-- It has a loop there. -/
  loop : ∃ server loop, s.exchange.runningLoop? n = some (server, loop) ∧ loop.channel = c
  consumer : s.exchange.bus.consumer = some c
  /-- It is listening until the broker is closed or another consumer attaches. -/
  listening : ∀ acts k, (∀ j, j ≤ k → (s.after acts j).exchange.bus.consumer = some c) →
    (s.after acts k).exchange.isListening n = true
  /-- Until it is closed, it receives in order what is accepted there, and the rest waits. -/
  inOrder : ∀ acts k, (∀ j, j < k → acts j ≠ .close n) →
    s.queue c ++ s.accepted c acts k = s.received n acts k ++ (s.after acts k).queue c
  /-- If its loop gets its turn, all that is accepted there is received in the end, unless the
  server is closed after it was accepted; then nothing is subscribed any more. -/
  served : ∀ acts, s.Attentive n acts → ∀ k,
    (∃ l, s.queue c ++ s.accepted c acts k <+: s.received n acts l) ∨
    ∃ l, acts l = .close n ∧ s.accepted c acts k <+: s.accepted c acts l ∧
      (s.after acts (l + 1)).exchange.bus.pending = []

end Scene

/-- A server was never told to stop, and holds no loop or is listening already. -/
def Exchange.CanListen (x : Exchange) (n : Nat) : Prop :=
  ∃ server, x.servers[n]? = some server ∧ server.stopped = false ∧
    (server.loop = none ∨ ∃ loop, server.loop = some loop ∧ loop.running = true ∧
      x.bus.consumer = some loop.channel)

namespace Scene

variable {s : Scene} {n c : Nat}

/-- A server tends a channel: its loop is there and was not told to stop, or has ended when there
was nothing to receive any more. -/
inductive Tended (s : Scene) (n c : Nat) : Prop where
  | runs {server : Server} {loop : Loop}
      (running : s.exchange.runningLoop? n = some (server, loop)) (going : server.stopped = false)
      (own : loop.channel = c)
  | halted {server : Server} {loop : Loop} (place : s.exchange.servers[n]? = some server)
      (held : server.loop = some loop) (ended : loop.running = false)
      (gone : s.exchange.bus.consumer ≠ some c) (nothing : s.queue c = [])
      (inRange : c < s.exchange.bus.requests.length)

namespace Tended

theorem inRange (sound : s.Sound) (tended : s.Tended n c) :
    c < s.exchange.bus.requests.length := by
  cases tended with
  | runs running _ own =>
      rw [← own]
      exact Channels.lt_length_of_attended (sound.orderly.attended running)
  | halted _ _ _ _ _ inRange => exact inRange

theorem place (tended : s.Tended n c) : ∃ server, s.exchange.servers[n]? = some server := by
  cases tended with
  | runs running => exact ⟨_, (Exchange.runningLoop?_eq_some_iff.mp running).1⟩
  | halted place => exact ⟨_, place⟩

/-- A loop that was not told to stop goes on, or ends at an empty channel. -/
private theorem next_of_runs (sound : s.Sound) {server : Server} {loop : Loop}
    (running : s.exchange.runningLoop? n = some (server, loop)) (going : server.stopped = false)
    {a : Act} (other : a ≠ .close n) :
    (s.next a).Tended n loop.channel ∧
      s.queue loop.channel ++ (s.accepted? loop.channel a).toList
        = (s.received? n a).toList ++ (s.next a).queue loop.channel := by
  obtain ⟨place, held, runs⟩ := Exchange.runningLoop?_eq_some_iff.mp running
  have stays : a ≠ .move (.stop n) → (s.next a).Tended n loop.channel := fun stops =>
    .runs (Exchange.runningLoop?_eq_some_iff.mpr
      ⟨server_next place held other stops, held, runs⟩) going rfl
  by_cases takes : a = .move (.receive n)
  · subst takes
    refine ⟨stays (by simp), ?_⟩
    obtain ⟨takes, left⟩ := queue_next_receive running
    rw [takes, left]
    cases s.queue loop.channel <;> simp [accepted?]
  rw [received?_of_ne takes]
  by_cases stops : a = .move (.stop n)
  · subst stops
    rcases s.next_stop n with same | ⟨_, _, found, reason, ended⟩
    · rw [same]
      exact ⟨.runs running going rfl, List.append_nil _⟩
    · cases running.symm.trans found
      have disconnected : (s.exchange.bus.receiveRequest loop.channel).2 = .disconnected := by
        simpa [going] using reason
      obtain ⟨nothing, gone⟩ := Bus.receiveRequest_eq_disconnected_iff.mp disconnected
      have inRange := (List.getElem?_eq_some_iff.mp place).1
      have none : (s.next (.move (.stop n))).queue loop.channel = [] := by
        rw [ended]
        simp [queue, Exchange.endLoop, Bus.releaseConsumer, Channels.waiting_release]
      have entry : (s.next (.move (.stop n))).exchange.servers[n]?
          = some { server with loop := some { loop with running := false } } := by
        rw [ended]
        simp [Exchange.endLoop, inRange]
      constructor
      · refine .halted entry rfl rfl ?_ none ?_
        · rw [ended]
          exact gone
        · exact inRange_next (Channels.lt_length_of_attended (sound.orderly.attended running)) _
      · rw [none]
        exact congrArg (· ++ []) nothing
  · refine ⟨stays stops, ?_⟩
    rcases queue_next s loop.channel a with appended | ⟨_, _, access⟩
    · exact appended.symm
    · -- Nobody else has access to the channel of the loop.
      cases access with
      | @loop m _ _ found own act =>
          have same : m = n := sound.orderly.apart found running own
          subst same
          rcases act with receives | stop | closes
          · exact absurd receives takes
          · exact absurd stop stops
          · exact absurd closes other
      | outside _ _ foreign =>
          rw [Exchange.owns_of_runningLoop? running] at foreign
          exact absurd foreign (by simp)

/-- Once a loop has ended, nothing happens at its channel. -/
private theorem next_of_halted {server : Server} {loop : Loop}
    (place : s.exchange.servers[n]? = some server) (held : server.loop = some loop)
    (ended : loop.running = false) (gone : s.exchange.bus.consumer ≠ some c)
    (nothing : s.queue c = []) (inRange : c < s.exchange.bus.requests.length) {a : Act}
    (other : a ≠ .close n) :
    (s.next a).Tended n c ∧ s.queue c ++ (s.accepted? c a).toList
      = (s.received? n a).toList ++ (s.next a).queue c := by
  have halted : s.exchange.runningLoop? n = none := by
    simp [Exchange.runningLoop?, place, held, ended]
  have unheard : s.accepted? c a = none := accepted?_of_gone gone a
  have silent : s.received? n a = none := by
    unfold received?
    split
    · simp [Exchange.move, halted]
    · rfl
  have empty : (s.next a).queue c = [] := by
    rcases queue_next s c a with appended | ⟨_, fewer, _⟩
    · simpa [nothing, unheard] using appended
    · rw [nothing] at fewer
      exact List.suffix_nil.mp fewer
  rw [unheard, silent, nothing, empty]
  refine ⟨?_, rfl⟩
  have entry : (s.next a).exchange.servers[n]? = some server := by
    by_cases stops : a = .move (.stop n)
    · rcases s.next_stop n with same | ⟨_, _, running, _⟩
      · rw [stops, same]
        exact place
      · rw [halted] at running
        exact absurd running (by simp)
    · exact server_next place held other stops
  exact .halted entry held ended (fun again => gone (consumer_of_next inRange a again)) empty
    (inRange_next inRange a)

/-- A server goes on to tend its channel until it is closed. What is accepted there is what it
receives, and what waits. -/
theorem next (sound : s.Sound) (tended : s.Tended n c) {a : Act} (other : a ≠ .close n) :
    (s.next a).Tended n c ∧ s.queue c ++ (s.accepted? c a).toList
      = (s.received? n a).toList ++ (s.next a).queue c := by
  cases tended with
  | runs running going own =>
      subst own
      exact next_of_runs sound running going other
  | halted place held ended gone nothing inRange =>
      exact next_of_halted place held ended gone nothing inRange other

theorem after (sound : s.Sound) (tended : s.Tended n c) {acts : Nat → Act} {k : Nat}
    (others : ∀ j, j < k → acts j ≠ .close n) :
    (s.after acts k).Sound ∧ (s.after acts k).Tended n c ∧
      s.queue c ++ s.accepted c acts k = s.received n acts k ++ (s.after acts k).queue c := by
  induction k with
  | zero => exact ⟨sound, tended, List.append_nil _⟩
  | succ k inductionHypothesis =>
      obtain ⟨sound, tended, before⟩ :=
        inductionHypothesis fun j earlier => others j (Nat.lt_succ_of_lt earlier)
      obtain ⟨tendedNext, step⟩ := tended.next sound (others k (Nat.lt_succ_self k))
      refine ⟨sound.next (acts k), tendedNext, ?_⟩
      calc s.queue c ++ s.accepted c acts (k + 1)
          = (s.queue c ++ s.accepted c acts k) ++
              ((s.after acts k).accepted? c (acts k)).toList := (List.append_assoc _ _ _).symm
        _ = s.received n acts k ++ ((s.after acts k).queue c ++
              ((s.after acts k).accepted? c (acts k)).toList) := by
            rw [before, List.append_assoc]
        _ = s.received n acts k ++ (((s.after acts k).received? n (acts k)).toList ++
              (s.after acts (k + 1)).queue c) := congrArg _ step
        _ = s.received n acts (k + 1) ++ (s.after acts (k + 1)).queue c :=
            (List.append_assoc _ _ _).symm

end Tended

/-! ### What was accepted and received only grows -/

theorem accepted_prefix (s : Scene) (c : Nat) (acts : Nat → Act) {k l : Nat} (later : k ≤ l) :
    s.accepted c acts k <+: s.accepted c acts l := by
  induction later with
  | refl => exact List.prefix_refl _
  | step _ inductionHypothesis => exact inductionHypothesis.trans (List.prefix_append _ _)

theorem received_prefix (s : Scene) (n : Nat) (acts : Nat → Act) {k l : Nat} (later : k ≤ l) :
    s.received n acts k <+: s.received n acts l := by
  induction later with
  | refl => exact List.prefix_refl _
  | step _ inductionHypothesis => exact inductionHypothesis.trans (List.prefix_append _ _)

/-- Where another consumer, or none, is attached, nothing is accepted at a channel any more. -/
theorem accepted_stays {acts : Nat → Act} {k l : Nat}
    (gone : (s.after acts k).exchange.bus.consumer ≠ some c)
    (inRange : c < (s.after acts k).exchange.bus.requests.length) (later : k ≤ l) :
    s.accepted c acts l = s.accepted c acts k ∧
      (s.after acts l).exchange.bus.consumer ≠ some c ∧
      c < (s.after acts l).exchange.bus.requests.length := by
  induction later with
  | refl => exact ⟨rfl, gone, inRange⟩
  | @step l _ inductionHypothesis =>
      obtain ⟨same, goneThen, inRangeThen⟩ := inductionHypothesis
      refine ⟨?_, fun again => goneThen (consumer_of_next inRangeThen _ again),
        inRange_next inRangeThen _⟩
      rw [accepted, accepted?_of_gone goneThen, same]
      exact List.append_nil _

/-! ### A server that tends its channel as the consumer works -/

/-- Closing a server that is there closes the broker. -/
theorem next_close {server : Server} (place : s.exchange.servers[n]? = some server) :
    (s.next (.close n)).exchange.bus.consumer = none ∧
      (s.next (.close n)).exchange.bus.pending = [] := by
  simp only [Scene.next, Exchange.closeServer, place]
  split
  · split <;> exact ⟨rfl, rfl⟩
  · exact ⟨rfl, rfl⟩

namespace Tended

variable {acts : Nat → Act} {k : Nat}

/-- While its channel is the consumer's, a server is not closed. -/
private theorem open_of_steady (sound : s.Sound) (tended : s.Tended n c)
    (steady : ∀ j, j ≤ k → (s.after acts j).exchange.bus.consumer = some c) :
    ∀ j, j < k → acts j ≠ .close n := by
  intro j
  induction j using Nat.strong_induction_on with
  | _ j inductionHypothesis =>
      intro earlier closes
      obtain ⟨_, tending, _⟩ := after sound tended fun i before =>
        inductionHypothesis i before (Nat.lt_trans before earlier)
      obtain ⟨server, place⟩ := tending.place
      have closed : (s.after acts (j + 1)).exchange.bus.consumer = none := by
        rw [Scene.after, closes]
        exact (next_close place).1
      rw [steady (j + 1) earlier] at closed
      exact absurd closed (by simp)

theorem isListening (sound : s.Sound) (tended : s.Tended n c)
    (steady : ∀ j, j ≤ k → (s.after acts j).exchange.bus.consumer = some c) :
    (s.after acts k).exchange.isListening n = true := by
  have attached := steady k (Nat.le_refl k)
  obtain ⟨sound, tending, _⟩ := tended.after sound (tended.open_of_steady sound steady)
  cases tending with
  | runs running going own =>
      have attended := sound.orderly.attended running
      obtain ⟨place, held, _⟩ := Exchange.runningLoop?_eq_some_iff.mp running
      rw [own] at attended
      simp [Exchange.isListening, place, held, Bus.hasConsumer, attached, attended]
  | halted _ _ _ gone => exact absurd attached gone

/-- Where something waits, the loop is there and can take it. -/
theorem can_receive (tended : s.Tended n c) (waiting : s.queue c ≠ []) :
    s.exchange.move (.receive n) ≠ none := by
  cases tended with
  | runs running going own =>
      subst own
      obtain ⟨r, later, first⟩ := List.exists_cons_of_ne_nil waiting
      have got : (s.exchange.bus.receiveRequest _).2 = .item r :=
        Bus.receiveRequest_eq_item_iff.mpr (congrArg List.head? first)
      rw [Exchange.move_receive running got]
      simp
  | halted _ _ _ _ nothing => exact absurd nothing waiting

/-- A loop that gets its turn receives as many requests as were accepted. The induction is on their
number: at the moment at which it gets its turn it takes one more, or nothing waits any more. -/
theorem receives_enough (sound : s.Sound) (tended : s.Tended n c) (attentive : s.Attentive n acts)
    (others : ∀ j, acts j ≠ .close n) (k m : Nat)
    (few : m ≤ (s.queue c ++ s.accepted c acts k).length) :
    ∃ l, k ≤ l ∧ m ≤ (s.received n acts l).length := by
  induction m with
  | zero => exact ⟨k, Nat.le_refl k, Nat.zero_le _⟩
  | succ m inductionHypothesis =>
      obtain ⟨l, later, many⟩ := inductionHypothesis (Nat.le_of_succ_le few)
      obtain ⟨i, muchLater, turn⟩ := attentive l
      have stillLater := Nat.le_trans later muchLater
      obtain ⟨_, tending, inOrder⟩ := after sound tended (k := i) fun j _ => others j
      cases waiting : (s.after acts i).queue c with
      | nil =>
          -- All that was accepted has been received.
          have more := (s.accepted_prefix c acts stillLater).length_le
          have all := congrArg List.length inOrder
          simp only [waiting, List.length_append, List.length_nil] at all few
          exact ⟨i, stillLater, by omega⟩
      | cons r rest =>
          have able := tending.can_receive (by simp [waiting])
          have takes : acts i = .move (.receive n) := turn.resolve_right able
          have before := (s.received_prefix n acts muchLater).length_le
          refine ⟨i + 1, Nat.le_succ_of_le stillLater, ?_⟩
          cases tending with
          | halted _ _ _ _ nothing =>
              rw [nothing] at waiting
              exact absurd waiting (by simp)
          | runs running going own =>
              subst own
              have taken := (queue_next_receive running).1
              rw [received, takes, taken, waiting]
              simpa using Nat.le_trans many before

/-- A loop that gets its turn receives all that was accepted, in the end. -/
theorem receives_all (sound : s.Sound) (tended : s.Tended n c) (attentive : s.Attentive n acts)
    (others : ∀ j, acts j ≠ .close n) (k : Nat) :
    ∃ l, s.queue c ++ s.accepted c acts k <+: s.received n acts l := by
  obtain ⟨l, later, enough⟩ :=
    tended.receives_enough sound attentive others k _ (Nat.le_refl _)
  obtain ⟨_, _, inOrder⟩ := after sound tended (k := l) fun j _ => others j
  have accepted : s.queue c ++ s.accepted c acts k <+: s.queue c ++ s.accepted c acts l :=
    (List.prefix_append_right_inj _).mpr (s.accepted_prefix c acts later)
  have received : s.received n acts l <+: s.queue c ++ s.accepted c acts l := by
    rw [inOrder]
    exact List.prefix_append _ _
  exact ⟨l, List.prefix_of_prefix_length_le accepted received enough⟩

/-- When a server is closed, all that was accepted at its channel was accepted before, and nothing
is subscribed any more. -/
theorem ends (sound : s.Sound) (tended : s.Tended n c) (closes : ∃ l, acts l = .close n) (k : Nat) :
    ∃ l, acts l = .close n ∧ s.accepted c acts k <+: s.accepted c acts l ∧
      (s.after acts (l + 1)).exchange.bus.pending = [] := by
  classical
  have first := Nat.find_spec closes
  have earlier : ∀ j, j < Nat.find closes → acts j ≠ .close n := fun j => Nat.find_min closes
  generalize Nat.find closes = l at first earlier
  obtain ⟨soundThen, tending, _⟩ := after sound tended earlier
  obtain ⟨server, place⟩ := tending.place
  obtain ⟨detached, nobody⟩ := next_close place
  have closed : s.after acts (l + 1) = (s.after acts l).next (.close n) := by
    rw [Scene.after, first]
  have inRange := inRange_next (tending.inRange soundThen) (.close n)
  rw [← closed] at detached nobody inRange
  refine ⟨l, first, ?_, nobody⟩
  rcases Nat.lt_or_ge l k with later | before
  · have gone : (s.after acts (l + 1)).exchange.bus.consumer ≠ some c := by simp [detached]
    have same : s.accepted c acts (l + 1) = s.accepted c acts l := by
      simp [accepted, first, accepted?]
    rw [(accepted_stays gone inRange later).1, same]
  · exact s.accepted_prefix c acts before

theorem works (sound : s.Sound) (tended : s.Tended n c)
    (consumer : s.exchange.bus.consumer = some c) : s.Works n c where
  loop := by
    cases tended with
    | runs running _ own => exact ⟨_, _, running, own⟩
    | halted _ _ _ gone => exact absurd consumer gone
  consumer := consumer
  listening := fun _ _ steady => tended.isListening sound steady
  inOrder := fun _ _ others => (tended.after sound others).2.2
  served := by
    intro acts attentive k
    by_cases closes : ∃ l, acts l = .close n
    · exact Or.inr (tended.ends sound closes k)
    · exact Or.inl (tended.receives_all sound attentive (fun j same => closes ⟨j, same⟩) k)

end Tended
/-! ### When a server can listen -/

/-- A server that was told to stop does not work: its loop may end at once. -/
theorem Works.going (works : s.Works n c) {server : Server} {loop : Loop}
    (running : s.exchange.runningLoop? n = some (server, loop)) : server.stopped = false := by
  cases told : server.stopped with
  | false => rfl
  | true =>
      obtain ⟨_, _, found, own⟩ := works.loop
      cases running.symm.trans found
      have ends : s.next (.move (.stop n)) =
          { s with exchange := s.exchange.endLoop n server loop } := by
        simp [Scene.next, Exchange.move, running, told]
      have listening := works.listening (fun _ => .move (.stop n)) 1 ?_
      · have attached := works.consumer
        simp [Scene.after, ends, Exchange.isListening, Exchange.endLoop, Bus.hasConsumer,
          Bus.releaseConsumer, attached, own, Channels.attended_release] at listening
      · intro j early
        have attached := works.consumer
        rcases Nat.le_one_iff_eq_zero_or_eq_one.mp early with rfl | rfl
        · exact attached
        · simpa [Scene.after, ends, Exchange.endLoop, Bus.releaseConsumer] using attached

/-- A server that holds no loop starts one as the consumer. -/
theorem next_listen_of_idle {server : Server} (place : s.exchange.servers[n]? = some server)
    (idle : server.loop = none) :
    ∃ loop, (s.next (.listen n)).exchange.runningLoop? n
        = some ({ server with loop := some loop }, loop) ∧
      (s.next (.listen n)).exchange.bus.consumer = some loop.channel := by
  have inRange := (List.getElem?_eq_some_iff.mp place).1
  refine ⟨{ channel := s.exchange.bus.requests.length }, ?_, ?_⟩
  · simp only [Scene.next, Exchange.listen, place, idle, Option.isSome_none, Bool.false_eq_true,
      if_false, Bus.attach, Exchange.runningLoop?_eq_some_iff]
    simp [inRange]
  · simp [Scene.next, Exchange.listen, place, idle, Bus.attach]

/-- A server that holds a loop does nothing when it is to listen. -/
theorem next_listen_of_held {server : Server} {loop : Loop}
    (place : s.exchange.servers[n]? = some server) (held : server.loop = some loop) :
    s.next (.listen n) = s := by
  simp [Scene.next, Exchange.listen, place, held]

/-- In every scene that can be reached, a server that begins to listen works as a consumer exactly
if it was never told to stop and holds no loop or is listening already. It then is listening until
the broker is closed or another consumer attaches; it receives, in order, what is accepted
meanwhile, all of it if its loop gets its turn; and where it is closed before, nothing stays
subscribed. -/
theorem listen_works_iff (past : List Act) (n : Nat) :
    (∃ c, ((of past).next (.listen n)).Works n c) ↔ (of past).exchange.CanListen n := by
  have sound := sound_of past
  have soundNext := sound.next (.listen n)
  generalize of past = s at sound soundNext
  constructor
  · rintro ⟨c, works⟩
    obtain ⟨after, loop, running, own⟩ := works.loop
    have going := works.going running
    cases place : s.exchange.servers[n]? with
    | none =>
        have nobody : (s.next (.listen n)).exchange.runningLoop? n = none := by
          simp [Scene.next, Exchange.listen, Exchange.runningLoop?, place]
        rw [nobody] at running
        exact absurd running (by simp)
    | some server =>
        refine ⟨server, place, ?_⟩
        cases held : server.loop with
        | none =>
            obtain ⟨_, started, _⟩ := next_listen_of_idle place held
            cases running.symm.trans started
            exact ⟨going, Or.inl rfl⟩
        | some _ =>
            have attached := works.consumer
            rw [next_listen_of_held place held] at running attached
            obtain ⟨found, holds, runs⟩ := Exchange.runningLoop?_eq_some_iff.mp running
            cases place.symm.trans found
            cases held.symm.trans holds
            exact ⟨going, Or.inr ⟨loop, rfl, runs, own ▸ attached⟩⟩
  · rintro ⟨server, place, going, idle | ⟨loop, held, runs, attached⟩⟩
    · obtain ⟨loop, started, attached⟩ := next_listen_of_idle place idle
      exact ⟨loop.channel, Tended.works soundNext (.runs started going rfl) attached⟩
    · rw [next_listen_of_held place held] at soundNext ⊢
      have running := Exchange.runningLoop?_eq_some_iff.mpr ⟨place, held, runs⟩
      exact ⟨loop.channel, Tended.works soundNext (.runs running going rfl) attached⟩

/-- What keeps a server from listening. One whose loop ended when the broker was closed by someone
else holds that loop, so that listening again changes nothing. One that was closed itself starts a
loop that may end at once: the request that was accepted meanwhile stays subscribed, and nobody will
ever receive it. -/
theorem listen_in_vain :
    let closed := of [.serve Registry.empty, .listen 0, .use .close, .move (.stop 0)]
    let stopped := of [.serve Registry.empty, .listen 0, .close 0]
    let waits := (stopped.next (.listen 0)).next (.use (.send { id := "a", pattern := .null }))
    let left := waits.next (.move (.stop 0))
    (closed.next (.listen 0)).exchange.isListening 0 = false ∧
      (stopped.next (.listen 0)).exchange.isListening 0 = true ∧
      left.exchange.bus.pending = [("a", 0)] ∧ left.queue 1 = [] ∧ left.exchange.jobs = [] ∧
      left.exchange.runningLoop? 0 = none := by
  refine ⟨rfl, rfl, rfl, rfl, rfl, rfl⟩

end Scene
end EventDispatch
