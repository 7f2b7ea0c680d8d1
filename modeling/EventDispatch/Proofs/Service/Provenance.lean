import EventDispatch.Proofs.Service.Chronicle
import Mathlib.Data.List.Nodup
/-!
Whose request an answer answers.

Purpose: along every chronicle in which servers alone respond, what a stream yields was computed
from the request of that stream, or from an earlier one with the same id. The latter happens only
where, before the stream's own request was accepted, a stream with the id had lost its subscription
unanswered: nothing then keeps the id from being sent again, while the earlier request still waits
or is being handled.

What carries the proof: a request that waits or is handled has its stream subscribed still, or some
stream with its id was forsaken.

Main exports: `Broker.Log.Origin`, `Broker.Run.Traced`, `Chronicle.traced_of`,
`Chronicle.answers_own_request`, `Chronicle.answers_earlier_request`.
-/

namespace EventDispatch

namespace Broker.Log

/-- A stream that was handed out for a request with an id, no later than another one, lost its
subscription unanswered. -/
def Lost (log past : Log) (id : String) (m : Nat) : Prop :=
  ∃ k q, k ≤ m ∧ log.request? k = some q ∧ q.id = id ∧ past.Forsaken k

/-- The request of a stream is that of another one, or an earlier one with an id that was lost
before the other one was accepted. -/
def Origin (log : Log) (id : String) (n m : Nat) : Prop :=
  m = n ∨ m < n ∧ log.Lost (log.before n) id m

theorem Origin.le {log : Log} {id : String} {n m : Nat} (origin : log.Origin id n m) : m ≤ n := by
  rcases origin with same | ⟨earlier, _⟩
  · exact Nat.le_of_eq same
  · exact Nat.le_of_lt earlier

end Broker.Log

namespace Broker.Run

/-- The request of a stream waits at a channel, or is being handled. -/
def UnderWay (r : Run) (handled : List Nat) (m : Nat) : Prop :=
  m ∈ handled ∨ ∃ c, m ∈ r.log.waiting c

/-- What is handled and answered is traced back to the streams whose requests it stems from, and to
registries that are served. -/
structure Traced (served : Registry → Prop) (r : Run) (jobs : List Job) (handled : List Nat)
    (answers : List (Nat × Nat)) : Prop where
  balanced : r.Balanced
  queued : r.Queued
  requests : handled.map (fun m => r.log.request? m) = jobs.map fun job => some job.request
  registries : ∀ {job : Job}, job ∈ jobs → served job.registry
  placed : ∀ {m : Nat}, m ∈ handled → m < r.broker.streams.length
  once : handled.Nodup
  apart : ∀ {m c : Nat}, m ∈ handled → m ∉ r.log.waiting c
  /-- A request that is under way has its stream subscribed, or its id was lost. -/
  kept : ∀ {m : Nat} {q : Request}, r.UnderWay handled m → r.log.request? m = some q →
    r.log.subscription m = some q.id ∨ r.log.Lost r.log q.id m
  /-- What is under way with the id of a stream that is subscribed is its own request, or its id was
  lost before. -/
  origin : ∀ {n m : Nat} {id : String} {q : Request}, r.log.subscription n = some id →
    r.UnderWay handled m → r.log.request? m = some q → q.id = id → r.log.Origin id n m
  answered : ∀ {n : Nat} {p : Nat × Response}, p ∈ r.log.owed n →
    ∃ m q, (p.1, m) ∈ answers ∧ r.log.request? m = some q ∧ q.id = p.2.id ∧
      (∃ g, served g ∧ g.Answers q p.2) ∧ r.log.Origin p.2.id n m
  /-- Answers are known by their moments, in the order of publication. -/
  moments : answers.Pairwise (·.1 < ·.1)
  past : ∀ {p : Nat × Nat}, p ∈ answers → p.1 < r.log.length

variable {served : Registry → Prop} {r : Run} {jobs : List Job} {handled : List Nat}
  {answers : List (Nat × Nat)}

/-- Losses are remembered. -/
theorem lost_next {past later : Log} {id : String} {m : Nat} (lost : r.log.Lost past id m)
    (below : m < r.broker.streams.length) (a : Action)
    (remembered : ∀ k, past.Forsaken k → later.Forsaken k) :
    (r.next a).log.Lost later id m := by
  obtain ⟨k, q, earlier, request, own, forsaken⟩ := lost
  exact ⟨k, q, earlier, (request?_next (Nat.lt_of_le_of_lt earlier below) a).trans request, own,
    remembered k forsaken⟩

theorem origin_next {id : String} {n m : Nat} (origin : r.log.Origin id n m)
    (below : n < r.broker.streams.length) (a : Action) : (r.next a).log.Origin id n m := by
  have before : (r.next a).log.before n = r.log.before n :=
    Log.before_cons _ (unaccepted_next below a)
  rcases origin with same | ⟨earlier, lost⟩
  · exact Or.inl same
  · refine Or.inr ⟨earlier, ?_⟩
    rw [before]
    exact lost_next lost (Nat.lt_trans earlier below) a fun _ forsaken => forsaken

/-- While what is handled stays the same, a request that is under way was so before, or was accepted
just now. -/
theorem underWay_next {m : Nat} {a : Action} (under : (r.next a).UnderWay handled m) :
    r.UnderWay handled m ∨ ∃ q, (r.broker.act a).2 = .accepted m q := by
  rcases under with handled | ⟨c, waits⟩
  · exact Or.inl (Or.inl handled)
  · rcases Log.mem_waiting_cons waits with old | new
    · exact Or.inl (Or.inr ⟨c, old⟩)
    · exact Or.inr new

namespace Traced

theorem start : Traced served {} [] [] [] where
  balanced := .start
  queued := .start
  requests := rfl
  registries := by simp
  placed := by simp
  once := List.nodup_nil
  apart := by simp
  kept := by
    intro m q under
    simp [UnderWay, Log.waiting] at under
  origin := by
    intro n m id q subscribed
    simp [Log.subscription] at subscribed
  answered := by
    intro n p owed
    simp [Log.owed] at owed
  moments := List.Pairwise.nil
  past := by simp

theorem below (traced : Traced served r jobs handled answers) {m : Nat}
    (under : r.UnderWay handled m) : m < r.broker.streams.length := by
  rcases under with handled | ⟨c, waits⟩
  · exact traced.placed handled
  · exact traced.queued.placed waits

/-- Until a response is published, a request that is under way stays subscribed, or loses its id. -/
private theorem kept_next (traced : Traced served r jobs handled answers) {a : Action}
    (silent : ∀ x, a ≠ .respond x) {m : Nat} {q : Request}
    (underNow : (r.next a).UnderWay handled m) (request : (r.next a).log.request? m = some q) :
    (r.next a).log.subscription m = some q.id ∨ (r.next a).log.Lost (r.next a).log q.id m := by
  rcases underWay_next underNow with old | ⟨_, new⟩
  · have below := traced.below old
    have known := (request?_next below a).symm.trans request
    rcases traced.kept old known with subscribed | lost
    · rcases Log.subscription_cons subscribed (unaccepted_next below a) with
        still | forsaken | ⟨x, published, _⟩
      · exact Or.inl still
      · exact Or.inr ⟨m, q, Nat.le_refl m, request, rfl, forsaken⟩
      · exact absurd (published_next published) (silent x)
    · exact Or.inr (lost_next lost below a fun _ forsaken => forsaken.cons _)
  · cases (request?_of_accepted new).symm.trans request
    exact Or.inl (by simp [Run.next, new, Log.subscription])

/-- A stream that becomes subscribed while an earlier request with its id is under way does so after
that id was lost. -/
private theorem origin_kept (traced : Traced served r jobs handled answers) {a : Action} {n m : Nat}
    {id : String} {q : Request} (subscribed : (r.next a).log.subscription n = some id)
    (underNow : (r.next a).UnderWay handled m) (request : (r.next a).log.request? m = some q)
    (own : q.id = id) : (r.next a).log.Origin id n m := by
  subst own
  rcases Log.of_subscription_cons subscribed with still | ⟨q', begins, ownId⟩
  · have below := traced.balanced.lt_of_subscription still
    rcases underWay_next underNow with old | ⟨_, new⟩
    · have known := (request?_next (traced.below old) a).symm.trans request
      exact origin_next (traced.origin still old known rfl) below a
    · -- A request with the id of a stream that is subscribed is not accepted.
      cases (request?_of_accepted new).symm.trans request
      exact absurd still (traced.balanced.unsubscribed_of_accepted new n)
  · rcases underWay_next underNow with old | ⟨_, new⟩
    · have below := traced.below old
      have known := (request?_next below a).symm.trans request
      rcases traced.kept old known with subscribedBefore | lost
      · rw [← ownId] at subscribedBefore
        exact absurd subscribedBefore (traced.balanced.unsubscribed_of_accepted begins m)
      · have before : (r.next a).log.before n = r.log := by
          simp [Run.next, begins, Log.before]
        refine Or.inr ⟨(accepted_next begins).1 ▸ below, ?_⟩
        rw [before]
        exact lost_next lost below a fun _ forsaken => forsaken
    · rw [begins] at new
      cases new
      exact Or.inl rfl

/-- What was answered stays traced back. -/
private theorem answered_kept (traced : Traced served r jobs handled answers) (a : Action) {n : Nat}
    {p : Nat × Response} (owed : p ∈ r.log.owed n) :
    ∃ m q, (p.1, m) ∈ answers ∧ (r.next a).log.request? m = some q ∧ q.id = p.2.id ∧
      (∃ g, served g ∧ g.Answers q p.2) ∧ (r.next a).log.Origin p.2.id n m := by
  obtain ⟨m, q, moment, request, own, answer, origin⟩ := traced.answered owed
  have below := traced.balanced.lt_of_owed owed
  exact ⟨m, q, moment, (request?_next (Nat.lt_of_le_of_lt origin.le below) a).trans request, own,
    answer, origin_next origin below a⟩

/-- Whatever happens at the broker but a publication. -/
theorem act (traced : Traced served r jobs handled answers) {a : Action}
    (silent : ∀ x, a ≠ .respond x) : Traced served (r.next a) jobs handled answers where
  balanced := traced.balanced.next a
  queued := traced.queued.next a
  requests := by
    rw [← traced.requests]
    exact List.map_congr_left fun m member => request?_next (traced.placed member) a
  registries := traced.registries
  placed := fun member => Nat.lt_of_lt_of_le (traced.placed member) (r.length_streams_next a)
  once := traced.once
  apart := by
    intro m c member waits
    rcases Log.mem_waiting_cons waits with old | ⟨q, new⟩
    · exact traced.apart member old
    · exact unaccepted_next (traced.placed member) a q new
  kept := traced.kept_next silent
  origin := traced.origin_kept
  answered := by
    intro n p owed
    rcases Log.mem_owed_cons owed with old | ⟨published, _⟩
    · exact traced.answered_kept a old
    · exact absurd (published_next published) (silent p.2)
  moments := traced.moments
  past := fun member => Nat.lt_succ_of_lt (traced.past member)

theorem extend (traced : Traced served r jobs handled answers) {actions : List Action}
    (silent : ∀ a ∈ actions, ∀ x, a ≠ .respond x) :
    Traced served (r.extend actions) jobs handled answers := by
  induction actions generalizing r with
  | nil => exact traced
  | cons a later inductionHypothesis =>
      exact inductionHypothesis (traced.act (silent a List.mem_cons_self))
        fun b member => silent b (List.mem_cons_of_mem a member)

/-- A job ends without an answer. -/
theorem lose (traced : Traced served r jobs handled answers) (j : Nat) :
    Traced served r (jobs.eraseIdx j) (handled.eraseIdx j) answers := by
  have under : ∀ {m}, r.UnderWay (handled.eraseIdx j) m → r.UnderWay handled m := by
    rintro m (member | waits)
    · exact Or.inl (List.mem_of_mem_eraseIdx member)
    · exact Or.inr waits
  exact {
    balanced := traced.balanced
    queued := traced.queued
    requests := by rw [← List.eraseIdx_map, ← List.eraseIdx_map, traced.requests]
    registries := fun member => traced.registries (List.mem_of_mem_eraseIdx member)
    placed := fun member => traced.placed (List.mem_of_mem_eraseIdx member)
    once := traced.once.sublist (List.eraseIdx_sublist _ _)
    apart := fun member => traced.apart (List.mem_of_mem_eraseIdx member)
    kept := fun underNow => traced.kept (under underNow)
    origin := fun subscribed underNow => traced.origin subscribed (under underNow)
    answered := traced.answered
    moments := traced.moments
    past := traced.past }

/-- A job handles the request of its stream. -/
theorem request (traced : Traced served r jobs handled answers) {j m : Nat} {job : Job}
    (found : jobs[j]? = some job) (place : handled[j]? = some m) :
    r.log.request? m = some job.request := by
  have entries := congrArg (·[j]?) traced.requests
  simpa [found, place] using entries

/-- A request whose job ends is not under way any more. -/
theorem ne_of_underWay (traced : Traced served r jobs handled answers) {j m k : Nat}
    (place : handled[j]? = some m) (under : r.UnderWay (handled.eraseIdx j) k) : k ≠ m := by
  rintro rfl
  rcases under with member | ⟨c, waits⟩
  · obtain ⟨inRange, entry⟩ := List.getElem?_eq_some_iff.mp place
    have distinct := (List.getElem_cons_eraseIdx_perm inRange).nodup_iff.mpr traced.once
    rw [entry] at distinct
    exact (List.nodup_cons.mp distinct).1 member
  · exact traced.apart (List.mem_of_getElem? place) waits

/-- A job ends with its answer. The streams of other requests with its id that are under way were
subscribed behind it, so that its id was lost. -/
theorem finish (traced : Traced served r jobs handled answers) {j m : Nat} {job : Job}
    {x : Response} (found : jobs[j]? = some job) (place : handled[j]? = some m)
    (answer : job.registry.Answers job.request x) :
    Traced served (r.next (.respond x)) (jobs.eraseIdx j) (handled.eraseIdx j)
      (answers ++ [(r.log.length, m)]) := by
  have request := traced.request found place
  have underWay : r.UnderWay handled m := Or.inl (List.mem_of_getElem? place)
  have ended := traced.lose j
  refine {
    balanced := traced.balanced.next _
    queued := traced.queued.next _
    requests := ended.requests
    registries := ended.registries
    placed := ended.placed
    once := ended.once
    apart := ended.apart
    kept := ?kept
    origin := ?origin
    answered := ?answered
    moments := ?moments
    past := ?past }
  case kept =>
    intro k q under known
    have unaccepted : ∀ q', Event.published x ≠ .accepted k q' := by simp
    rcases ended.kept under known with subscribed | lost
    · rcases Log.subscription_cons subscribed unaccepted with still | lost | ⟨y, published, _, own⟩
      · exact Or.inl still
      · exact Or.inr ⟨k, q, Nat.le_refl k, known, rfl, lost⟩
      · cases published
        rcases traced.origin subscribed underWay request (answer.id.symm.trans own) with
          same | ⟨earlier, i, q', before, first, ownId, forsaken⟩
        · exact absurd same.symm (traced.ne_of_underWay place under)
        · exact Or.inr ⟨i, q', Nat.le_trans before (Nat.le_of_lt earlier), first, ownId,
            forsaken.of_before⟩
    · exact Or.inr lost
  case origin =>
    intro n k id q subscribed under known own
    rcases Log.of_subscription_cons subscribed with before | ⟨_, begins, _⟩
    · exact ended.origin before under known own
    · exact absurd begins (by simp [Broker.act])
  case answered =>
    intro n p owed
    rcases Log.mem_owed_cons owed with old | ⟨published, moment, subscribed⟩
    · obtain ⟨k, q, known, rest⟩ := traced.answered old
      exact ⟨k, q, List.mem_append_left _ known, rest⟩
    · obtain ⟨t, y⟩ := p
      simp only [Broker.act, Event.published.injEq] at published moment subscribed
      subst published moment
      exact ⟨m, job.request, List.mem_append_right _ (List.mem_singleton.mpr rfl), request,
        answer.id.symm, ⟨job.registry, traced.registries (List.mem_of_getElem? found), answer⟩,
        traced.origin subscribed underWay request answer.id.symm⟩
  case moments =>
    rw [List.pairwise_append]
    refine ⟨traced.moments, List.pairwise_singleton _ _, ?_⟩
    intro p old q new
    rw [List.mem_singleton.mp new]
    exact traced.past old
  case past =>
    intro p member
    rcases List.mem_append.mp member with old | new
    · exact Nat.lt_succ_of_lt (traced.past old)
    · rw [List.mem_singleton.mp new]
      exact Nat.lt_succ_self _

/-- A loop takes the request that waits first at its channel, and a job begins. -/
theorem receive (traced : Traced served r jobs handled answers) {c m : Nat} (job : Job)
    (provided : served job.registry) (first : (r.log.waiting c).head? = some m)
    (got : (r.broker.bus.receiveRequest c).2 = .item job.request) :
    Traced served (r.next (.receive c)) (jobs ++ [job]) (handled ++ [m]) answers := by
  have log : (r.next (.receive c)).log = .received c (.item job.request) :: r.log := by
    simp [Run.next, Broker.act, got]
  have waits : m ∈ r.log.waiting c := List.mem_of_mem_head? first
  have before : ∀ {d k}, k ∈ (r.next (.receive c)).log.waiting d → k ∈ r.log.waiting d ∧ k ≠ m := by
    intro d k member
    rw [log] at member
    exact traced.queued.of_waiting_received first member
  have under : ∀ {k}, (r.next (.receive c)).UnderWay (handled ++ [m]) k → r.UnderWay handled k := by
    rintro k (member | ⟨d, member⟩)
    · rcases List.mem_append.mp member with old | new
      · exact Or.inl old
      · rw [List.mem_singleton.mp new]
        exact Or.inr ⟨c, waits⟩
    · exact Or.inr ⟨d, (before member).1⟩
  have request : r.log.request? m = some job.request := traced.queued.request?_first first got
  -- The log says nothing new of requests, of subscriptions and of what is owed.
  refine {
    balanced := traced.balanced.next _
    queued := traced.queued.next _
    requests := ?requests
    registries := ?registries
    placed := ?placed
    once := ?once
    apart := ?apart
    kept := fun underNow => traced.kept (under underNow)
    origin := fun subscribed underNow => traced.origin subscribed (under underNow)
    answered := traced.answered
    moments := traced.moments
    past := fun member => Nat.lt_succ_of_lt (traced.past member) }
  case requests =>
    rw [List.map_append, List.map_append, ← traced.requests]
    simpa [log, Log.request?] using request
  case registries =>
    intro other member
    rcases List.mem_append.mp member with old | new
    · exact traced.registries old
    · rw [List.mem_singleton.mp new]
      exact provided
  case placed =>
    intro k member
    rcases List.mem_append.mp member with old | new
    · exact traced.placed old
    · rw [List.mem_singleton.mp new]
      exact traced.queued.placed waits
  case once =>
    refine List.nodup_append.mpr ⟨traced.once, List.nodup_singleton m, ?_⟩
    rintro k old _ new rfl
    rw [List.mem_singleton.mp new] at old
    exact traced.apart old waits
  case apart =>
    intro k d member again
    obtain ⟨waited, differs⟩ := before again
    rcases List.mem_append.mp member with old | new
    · exact traced.apart old waited
    · exact differs (List.mem_singleton.mp new)

end Traced
end Broker.Run

/-- A server was there before, with the same registry, or is added by the act. -/
theorem Scene.registry_next (s : Scene) {a : Scene.Act} {server : Server}
    (member : server ∈ (s.next a).exchange.servers) :
    (∃ old ∈ s.exchange.servers, old.registry = server.registry) ∨ a = .serve server.registry := by
  have same : server ∈ s.exchange.servers →
      ∃ old ∈ s.exchange.servers, old.registry = server.registry := fun old => ⟨server, old, rfl⟩
  have replaced : ∀ {n : Nat} {before now : Server}, server ∈ s.exchange.servers.set n now →
      s.exchange.servers[n]? = some before → before.registry = now.registry →
      ∃ old ∈ s.exchange.servers, old.registry = server.registry := by
    intro n before now member place kept
    rcases List.mem_or_eq_of_mem_set member with old | rfl
    · exact same old
    · exact ⟨before, List.mem_of_getElem? place, kept⟩
  cases a with
  | serve g =>
      rcases List.mem_append.mp member with old | new
      · exact Or.inl (same old)
      · rw [List.mem_singleton.mp new]
        exact Or.inr rfl
  | listen n =>
      left
      cases place : s.exchange.servers[n]? with
      | none =>
          simp only [Scene.next, Exchange.listen, place] at member
          exact same member
      | some before =>
          simp only [Scene.next, Exchange.listen, place] at member
          split at member
          · exact same member
          · exact replaced member place rfl
  | close n =>
      left
      cases place : s.exchange.servers[n]? with
      | none =>
          simp only [Scene.next, Exchange.closeServer, place] at member
          exact same member
      | some before =>
          simp only [Scene.next, Exchange.closeServer, place] at member
          split at member <;> exact replaced member place rfl
  | move m =>
      left
      cases moved : s.exchange.move m with
      | none =>
          simp only [Scene.next, moved] at member
          exact same member
      | some y =>
          simp only [Scene.next, moved, Option.getD_some] at member
          rcases Exchange.move_cases moved with
            ⟨_, _, _, _, _, _, _, rfl⟩ | ⟨n, before, _, _, running, _, rfl⟩ |
            ⟨_, _, _, _, _, _, rfl⟩ | ⟨_, _, _, _, _, rfl⟩
          · exact same member
          · exact replaced member (Exchange.runningLoop?_eq_some_iff.mp running).1 rfl
          · exact same member
          · exact same member
  | use b =>
      left
      simp only [Scene.next, Scene.used] at member
      split at member <;> exact same member

namespace Chronicle

/-- What is handled and answered in a chronicle is traced back to the streams. -/
def Traced (served : Registry → Prop) (w : Chronicle) : Prop :=
  Broker.Run.Traced served w.run w.scene.exchange.jobs w.handled w.answers

variable {served : Registry → Prop} {w : Chronicle}

/-- An act that neither publishes a response nor touches the jobs. -/
theorem Traced.silent (traced : w.Traced served) {a : Scene.Act}
    (deeds : ∀ b ∈ w.scene.deeds a, ∀ x, b ≠ .respond x)
    (jobs : (w.scene.next a).exchange.jobs = w.scene.exchange.jobs)
    (handled : (w.next a).handled = w.handled) (answers : (w.next a).answers = w.answers) :
    (w.next a).Traced served := by
  have extended := Broker.Run.Traced.extend traced deeds
  unfold Traced
  rw [w.run_next, handled, answers]
  exact jobs ▸ extended

/-- The stream whose request a loop takes next stands first at its channel. -/
theorem Traced.taken (traced : w.Traced served) {n : Nat} {server : Server} {loop : Loop}
    (running : w.scene.exchange.runningLoop? n = some (server, loop)) :
    (w.taken? n).map (fun m => w.log.request? m)
      = (w.scene.exchange.bus.requests.waiting loop.channel).head?.map some := by
  have entries := congrArg List.head? (traced.queued.waiting loop.channel)
  rw [List.head?_map, List.head?_map] at entries
  simp only [taken?, running, Option.bind_some]
  exact entries

/-- Every job handles the request of a stream. -/
theorem Traced.place (traced : w.Traced served) {j : Nat} {job : Job}
    (found : w.scene.exchange.jobs[j]? = some job) : ∃ m, w.handled[j]? = some m := by
  have entries := congrArg (·[j]?) traced.requests
  simp only [List.getElem?_map, found, Option.map_some] at entries
  obtain ⟨m, place, _⟩ := Option.map_eq_some_iff.mp entries
  exact ⟨m, place⟩

/-- A move that is not possible changes nothing. -/
theorem Traced.next_of_impossible (traced : w.Traced served) {m : Move}
    (impossible : w.scene.exchange.move m = none) : w.next (.move m) = w := by
  have scene : w.scene.next (.move m) = w.scene := by simp [Scene.next, impossible]
  have deeds : w.scene.deeds (.move m) = [] := by simp [Scene.deeds, impossible]
  have silent : ∀ j, m = .finish j → w.answered? j = none := by
    rintro j rfl
    simp [answered?, Exchange.publishes?, Exchange.ends?, impossible]
  have idle : ∀ n, m = .receive n → w.taken? n = none := by
    rintro n rfl
    cases running : w.scene.exchange.runningLoop? n with
    | none => simp [taken?, running]
    | some p =>
        obtain ⟨server, loop⟩ := p
        have taken := traced.taken running
        cases waiting : w.scene.exchange.bus.requests.waiting loop.channel with
        | nil => simpa [waiting] using taken
        | cons q rest =>
            have got : (w.scene.exchange.bus.receiveRequest loop.channel).2 = .item q :=
              Bus.receiveRequest_eq_item_iff.mpr (by rw [waiting]; rfl)
            rw [Exchange.move_receive running got] at impossible
            exact absurd impossible (by simp)
  unfold Chronicle.next
  rw [scene, deeds]
  cases m with
  | receive n => simp [idle n rfl, Broker.Run.extend, run]
  | stop n => simp [Broker.Run.extend, run]
  | finish j => simp [silent j rfl, impossible, Broker.Run.extend, run]

theorem Traced.move (traced : w.Traced served)
    (registries : ∀ server ∈ w.scene.exchange.servers, served server.registry) (m : Move) :
    (w.next (.move m)).Traced served := by
  cases moved : w.scene.exchange.move m with
  | none =>
      rw [traced.next_of_impossible moved]
      exact traced
  | some y =>
      have acted : (w.scene.next (.move m)).exchange = y := by simp [Scene.next, moved]
      unfold Traced
      rcases Exchange.move_cases moved with
        ⟨n, server, loop, request, rfl, running, got, rfl⟩ |
        ⟨n, server, loop, rfl, running, _, rfl⟩ |
        ⟨j, job, response, rfl, found, handled, rfl⟩ | ⟨j, job, rfl, found, handled, rfl⟩
      · have deeds : w.scene.deeds (.move (.receive n)) = [.receive loop.channel] := by
          simp [Scene.deeds, Scene.moveDeeds, moved, running]
        have taken := traced.taken running
        rw [Bus.receiveRequest_eq_item_iff.mp got] at taken
        obtain ⟨k, first, request⟩ := Option.map_eq_some_iff.mp taken
        have head : (w.run.log.waiting loop.channel).head? = some k := by
          simp only [taken?, running, Option.bind_some] at first
          exact first
        have provided := registries server
          (List.mem_of_getElem? (Exchange.runningLoop?_eq_some_iff.mp running).1)
        have begun := Broker.Run.Traced.receive traced ⟨server.registry, _⟩ provided head got
        rw [w.run_next, deeds]
        change Broker.Run.Traced _ (w.run.next (.receive loop.channel)) _ _ _
        simpa [Chronicle.next, acted, first] using begun
      · refine traced.silent ?_ ?_ rfl rfl
        · simp [Scene.deeds, Scene.moveDeeds, moved, running]
        · rw [acted]
          rfl
      · have published : w.scene.exchange.publishes? (.finish j) = some response := by
          simp [Exchange.publishes?, Exchange.ends?, moved, found, Job.answer?, handled]
        have deeds : w.scene.deeds (.move (.finish j)) = [.respond response] := by
          simp [Scene.deeds, Scene.moveDeeds, moved, published]
        obtain ⟨k, place⟩ := traced.place found
        have ended := Broker.Run.Traced.finish traced found place
          (Registry.handle_eq_answered_iff.mp handled)
        rw [w.run_next, deeds]
        change Broker.Run.Traced _ (w.run.next (.respond response)) _ _ _
        simpa [Chronicle.next, acted, moved, answered?, published, place, run] using ended
      · have silent : w.scene.exchange.publishes? (.finish j) = none := by
          simp [Exchange.publishes?, Exchange.ends?, moved, found, Job.answer?, handled]
        have deeds : w.scene.deeds (.move (.finish j)) = [] := by
          simp [Scene.deeds, Scene.moveDeeds, moved, silent]
        have ended := Broker.Run.Traced.lose traced j
        rw [w.run_next, deeds]
        change Broker.Run.Traced _ w.run _ _ _
        simpa [Chronicle.next, acted, moved, answered?, silent] using ended

theorem Traced.next (traced : w.Traced served)
    (registries : ∀ server ∈ w.scene.exchange.servers, served server.registry) {a : Scene.Act}
    (alone : ∀ x, a ≠ .use (.respond x)) : (w.next a).Traced served := by
  cases a with
  | move m => exact traced.move registries m
  | serve g => exact traced.silent (by simp [Scene.deeds]) rfl rfl rfl
  | listen n =>
      refine traced.silent ?_ ?_ rfl rfl
      · intro b member x
        simp only [Scene.deeds] at member
        split at member <;> simp_all
      · simp only [Scene.next, Exchange.listen]
        split
        · rfl
        · split <;> rfl
  | close n =>
      refine traced.silent ?_ ?_ rfl rfl
      · intro b member x
        simp only [Scene.deeds] at member
        split at member
        · exact absurd member (by simp)
        · rcases List.mem_cons.mp member with rfl | left
          · simp
          · obtain ⟨_, _, rfl⟩ := List.mem_map.mp left
            simp
      · simp only [Scene.next, Exchange.closeServer]
        split
        · rfl
        · split <;> rfl
  | use b =>
      refine traced.silent ?_ ?_ rfl rfl
      · intro other member x
        simp only [Scene.deeds] at member
        split at member
        · exact absurd member (by simp)
        · rw [List.mem_singleton.mp member]
          rintro rfl
          exact alone x rfl
      · simp only [Scene.next, Scene.used]
        split <;> rfl

theorem traced_of (acts : List Scene.Act) (alone : ∀ x, .use (.respond x) ∉ acts) :
    (of acts).Traced fun g => .serve g ∈ acts := by
  have along : ∀ (later : List Scene.Act) (w : Chronicle), later ⊆ acts →
      (∀ server ∈ w.scene.exchange.servers, .serve server.registry ∈ acts) →
      w.Traced (fun g => .serve g ∈ acts) →
      (later.foldl Chronicle.next w).Traced fun g => .serve g ∈ acts := by
    intro later
    induction later with
    | nil => exact fun _ _ _ traced => traced
    | cons a later inductionHypothesis =>
        intro w among registries traced
        have act : a ∈ acts := among List.mem_cons_self
        have amongLater : later ⊆ acts := fun b member => among (List.mem_cons_of_mem a member)
        refine inductionHypothesis (w.next a) amongLater ?_
          (traced.next registries fun x same => alone x (same ▸ act))
        intro server member
        rcases w.scene.registry_next member with ⟨old, before, same⟩ | serves
        · exact same ▸ registries old before
        · exact serves ▸ act
  exact along acts {} (List.Subset.refl acts) (by simp) Broker.Run.Traced.start

/-- In every chronicle in which servers alone respond, each response that a stream yields carries
the id of the request from which a job of a server computed it, as the answer to it. That is the
very request for which the stream was handed out, unless a stream with the id had lost its
subscription unanswered before: then it may be an earlier request, not before that stream's. A
request is refused while an earlier one with its id was accepted and neither was answered nor lost
its subscription. -/
theorem answers_own_request (acts : List Scene.Act) (alone : ∀ x, .use (.respond x) ∉ acts) :
    (of acts).scene = Scene.of acts ∧
    (∀ n x, x ∈ (of acts).log.yielded n →
      ∃ t m q, (t, x) ∈ (of acts).log.owed n ∧ (t, m) ∈ (of acts).answers ∧
        (of acts).log.request? m = some q ∧ q.id = x.id ∧
        (∃ g, .serve g ∈ acts ∧ g.Answers q x) ∧
        (m = n ∨ m < n ∧ ∃ k first, k ≤ m ∧ (of acts).log.request? k = some first ∧
          first.id = x.id ∧ ((of acts).log.before n).Forsaken k)) ∧
    (∀ n q, .accepted n q ∈ (of acts).log → ¬ (of acts).log.Forsaken n →
      (∀ p ∈ (of acts).log.owed n, p.2.terminal = false) → ∀ again : Request, again.id = q.id →
      ∃ e, ((of acts).scene.exchange.bus.send again).2 = ⟨q.id, .failed e⟩ ∧
        ((of acts).scene.exchange.bus.hasConsumer = true → e = .duplicateRequestId q.id)) ∧
    (of acts).handled.map (fun m => (of acts).log.request? m)
      = (of acts).scene.exchange.jobs.map (fun job => some job.request) ∧
    (of acts).answers.Pairwise (·.1 < ·.1) := by
  have traced := traced_of acts alone
  refine ⟨scene_of acts, ?_, ?_, traced.requests, traced.moments⟩
  · intro n x yielded
    obtain ⟨t, owed⟩ := traced.balanced.owed_of_yielded yielded
    obtain ⟨m, q, moment, request, own, answer, origin⟩ := traced.answered owed
    exact ⟨t, m, q, owed, moment, request, own, answer, origin⟩
  · intro n q accepted kept unanswered again same
    obtain ⟨_, _, subscribed | forsaken | ⟨p, owed, terminal⟩⟩ := traced.queued.settled accepted
    · exact traced.balanced.refuses subscribed same
    · exact absurd forsaken kept
    · rw [unanswered p owed] at terminal
      exact absurd terminal (by simp)

/-- While a request is being handled, its id is refused. -/
theorem refused_while_handled :
    let w := of [.serve Registry.empty, .listen 0, .use (.send { id := "a", pattern := .null }),
      .move (.receive 0)]
    w.handled = [0] ∧ ∃ e, (w.scene.exchange.bus.send { id := "a", pattern := .string "p" }).2
      = ⟨"a", .failed e⟩ ∧ e = .duplicateRequestId "a" := by
  intro w
  have log : w.log = [.received 0 (.item { id := "a", pattern := .null }),
      .accepted 0 { id := "a", pattern := .null }, .attached 0] := rfl
  obtain ⟨_, _, refused, _⟩ := answers_own_request
    [.serve Registry.empty, .listen 0, .use (.send { id := "a", pattern := .null }),
      .move (.receive 0)] (by simp)
  have accepted : .accepted 0 { id := "a", pattern := .null } ∈ w.log := by simp [log]
  have kept : ¬ w.log.Forsaken 0 := by simp [log, Broker.Log.Forsaken]
  have unanswered : ∀ p ∈ w.log.owed 0, p.2.terminal = false := by simp [log, Broker.Log.owed]
  obtain ⟨e, failed, duplicate⟩ :=
    refused 0 _ accepted kept unanswered { id := "a", pattern := .string "p" } rfl
  exact ⟨rfl, e, failed, duplicate rfl⟩

/-- A stream may yield the answer to an earlier request with its id: the first stream is given up
while its request is being handled, the id is sent again, and the answer to the first request goes
to the second stream. -/
theorem answers_earlier_request :
    ∃ g, Registry.empty.register (.string "p") (fun r => .replied r.data) .message {} = .ok g ∧
      let first : Request := { id := "a", pattern := .string "p", data := .bool true }
      let second : Request := { id := "a", pattern := .string "p", data := .bool false }
      let w := of [.serve g, .listen 0, .use (.send first), .move (.receive 0), .use (.drop 0),
        .use (.send second), .move (.finish 0), .use (.poll 1)]
      w.log.request? 0 = some first ∧ w.log.request? 1 = some second ∧
        .accepted 1 second ∈ w.log ∧ w.log.yielded 1 = [.reply "a" (.bool true)] ∧
        w.log.owed 1 = [(5, .reply "a" (.bool true))] ∧ w.answers = [(5, 0)] := by
  obtain ⟨g, registered⟩ := Registry.exists_register (Registry.contains_empty (.string "p"))
    (fun r => .replied r.data) .message {}
  refine ⟨g, registered, ?_⟩
  intro first second w
  have handled : g.handle first = .answered (.reply "a" (.bool true)) := by
    rw [Registry.handle_of_message (Registry.resolve_of_register registered)]
    rfl
  -- The job of the first request is under way, and the second one waits behind it.
  let bus : Bus :=
    ⟨some 0, [("a", 1)], [⟨[second], true⟩], [⟨[], false⟩, ⟨[], true⟩]⟩
  let prior : Chronicle :=
    { scene := ⟨⟨bus, [⟨g, false, some ⟨0, true⟩⟩], [⟨g, first⟩]⟩,
        [none, some ⟨"a", .following 1⟩]⟩,
      log := [.accepted 1 second, .released 0 "a", .received 0 (.item first),
        .accepted 0 first, .attached 0],
      handled := [0], answers := [] }
  have last : w = (prior.next (.move (.finish 0))).next (.use (.poll 1)) := rfl
  have moved : prior.scene.exchange.move (.finish 0) = some
      { prior.scene.exchange with
        bus := bus.publishResponse (.reply "a" (.bool true))
        jobs := [] } := Exchange.move_finish rfl handled
  have published : prior.scene.exchange.publishes? (.finish 0)
      = some (.reply "a" (.bool true)) := by
    simp [Exchange.publishes?, Exchange.ends?, moved, prior, Job.answer?, handled]
  have finished : prior.next (.move (.finish 0)) =
      { scene := ⟨⟨bus.publishResponse (.reply "a" (.bool true)), [⟨g, false, some ⟨0, true⟩⟩], []⟩,
          [none, some ⟨"a", .following 1⟩]⟩,
        log := .published (.reply "a" (.bool true)) :: prior.log,
        handled := [], answers := [(5, 0)] } := by
    simp only [Chronicle.next, Scene.next, Scene.deeds, Scene.moveDeeds, moved, published,
      answered?]
    rfl
  have log : w.log = [.looked 1 (.item (.reply "a" (.bool true))),
      .published (.reply "a" (.bool true)), .accepted 1 second, .released 0 "a",
      .received 0 (.item first), .accepted 0 first, .attached 0] := by
    rw [last, finished]
    rfl
  have answers : w.answers = [(5, 0)] := by
    rw [last, finished]
    rfl
  rw [log, answers]
  exact ⟨rfl, rfl, by simp, rfl, rfl, rfl⟩

end Chronicle
end EventDispatch
