import EventDispatch.Proofs.Broker.Consumers
import EventDispatch.Proofs.Service.Scene
import Mathlib.Data.List.Perm.Basic
/-!
A server that attends the consumer's channel.

Purpose: while a server's loop is the consumer, the requests with given ids wait at its channel or
are among its jobs, and nowhere else. What is under way with such an id is neither lost nor doubled
by anything that happens, until its job ends.

Main exports: `Exchange.Listening`, `Exchange.Attending`, `Exchange.underWay`,
`Exchange.listen_same`, `Exchange.closeServer_same`, `Exchange.Attending.receive`,
`Exchange.Attending.endLoop`, `Exchange.Attending.finish`, `Exchange.Attending.used`,
`Exchange.Attending.accept`.
-/

namespace EventDispatch.Exchange

open scoped List

/-- A server that was not told to stop runs a loop, with its handlers, at a channel. -/
def Runs (x : Exchange) (n : Nat) (g : Registry) (c : Nat) : Prop :=
  ∃ server loop, x.runningLoop? n = some (server, loop) ∧ server.registry = g ∧
    server.stopped = false ∧ loop.channel = c

/-- A server listens: its loop runs as the attached consumer. -/
def Listening (x : Exchange) (n : Nat) (g : Registry) : Prop :=
  ∃ c, x.Runs n g c ∧ x.bus.consumer = some c

/-- The requests with an id that wait at a channel or are being handled. -/
def underWay (x : Exchange) (c : Nat) (id : String) : List Request :=
  (x.bus.requests.waiting c ++ x.jobs.map Job.request).filter (·.id == id)

/-- A server attends to the requests with some ids: its loop is the consumer, and no such request
waits at another channel or is handled by another server. -/
structure Attending (x : Exchange) (n : Nat) (g : Registry) (c : Nat) (ids : List String) :
    Prop where
  runs : x.Runs n g c
  consumer : x.bus.consumer = some c
  elsewhere : ∀ d, d ≠ c → ∀ q ∈ x.bus.requests.waiting d, q.id ∉ ids
  jobs : ∀ job ∈ x.jobs, job.request.id ∈ ids → job.registry = g

variable {x : Exchange} {n c : Nat} {g : Registry} {ids : List String}

theorem underWay_eq_nil_iff {id : String} :
    x.underWay c id = [] ↔
      (∀ q ∈ x.bus.requests.waiting c, q.id ≠ id) ∧ ∀ job ∈ x.jobs, job.request.id ≠ id := by
  simp [underWay]

theorem mem_underWay {id : String} {q : Request} :
    q ∈ x.underWay c id ↔
      (q ∈ x.bus.requests.waiting c ∨ ∃ job ∈ x.jobs, job.request = q) ∧ q.id = id := by
  simp [underWay, or_and_right]

/-- Where the consumer stays the same, no server began to listen. -/
theorem listen_same (inRange : c < x.bus.requests.length) {m : Nat}
    (stays : (x.listen m).bus.consumer = some c) : x.listen m = x := by
  unfold listen at stays ⊢
  split
  · rfl
  · rename_i server entry
    split
    · rfl
    · rename_i idle
      simp only [entry, idle, Bus.attach] at stays
      have fresh : x.bus.requests.length = c := Option.some.inj stays
      exact absurd fresh (Nat.ne_of_gt inRange)

/-- Where the consumer stays the same, no server was closed. -/
theorem closeServer_same {m : Nat} (stays : (x.closeServer m).bus.consumer = some c) :
    x.closeServer m = x := by
  unfold closeServer at stays ⊢
  split
  · rfl
  · rename_i server entry
    simp only [entry] at stays
    split at stays
    · split at stays <;> cases stays
    · cases stays

namespace Attending

theorem inRange (attending : x.Attending n g c ids) (orderly : x.Orderly) :
    c < x.bus.requests.length := by
  obtain ⟨server, loop, running, _, _, rfl⟩ := attending.runs
  exact Channels.lt_length_of_attended (orderly.attended running)

theorem owns (attending : x.Attending n g c ids) : x.owns c = true := by
  obtain ⟨server, loop, running, _, _, rfl⟩ := attending.runs
  exact owns_of_runningLoop? running

theorem hasConsumer (attending : x.Attending n g c ids) (orderly : x.Orderly) :
    x.bus.hasConsumer = true := by
  obtain ⟨server, loop, running, _, _, channel⟩ := attending.runs
  have attended := orderly.attended running
  rw [channel] at attended
  simp [Bus.hasConsumer, attending.consumer, attended]

/-- The same loops, with the same requests at the channels that are not attended to. -/
theorem of_runs (attending : x.Attending n g c ids) {y : Exchange} (runs : y.Runs n g c)
    (consumer : y.bus.consumer = x.bus.consumer)
    (elsewhere : ∀ d, d ≠ c →
      (y.bus.requests.waiting d).Subset (x.bus.requests.waiting d))
    (jobs : ∀ job ∈ y.jobs, job ∈ x.jobs ∨ job.registry = g ∨ job.request.id ∉ ids) :
    y.Attending n g c ids where
  runs := runs
  consumer := consumer.trans attending.consumer
  elsewhere := by
    intro d other q waits
    exact attending.elsewhere d other q (elsewhere d other waits)
  jobs := by
    intro job member concerned
    rcases jobs job member with before | own | alien
    · exact attending.jobs job before concerned
    · exact own
    · exact absurd concerned alien

theorem addServer (attending : x.Attending n g c ids) (registry : Registry) :
    (x.addServer registry).1.Attending n g c ids := by
  refine attending.of_runs ?_ rfl (fun _ _ _ => id) (fun _ => Or.inl)
  obtain ⟨server, loop, running, rest⟩ := attending.runs
  obtain ⟨entry, held, running⟩ := runningLoop?_eq_some_iff.mp running
  refine ⟨server, loop, runningLoop?_eq_some_iff.mpr ⟨?_, held, running⟩, rest⟩
  simp only [Exchange.addServer]
  rw [List.getElem?_append_left (List.getElem?_eq_some_iff.mp entry).1]
  exact entry

/-- A loop takes a request. What is under way stays under way, the request now as a job. -/
theorem receive (attending : x.Attending n g c ids) (orderly : x.Orderly) {m : Nat}
    {server : Server} {loop : Loop} {request : Request}
    (running : x.runningLoop? m = some (server, loop))
    (got : (x.bus.receiveRequest loop.channel).2 = .item request) :
    Attending { x with
        bus := (x.bus.receiveRequest loop.channel).1
        jobs := x.jobs ++ [⟨server.registry, request⟩] } n g c ids ∧
      ∀ id ∈ ids, (underWay { x with
        bus := (x.bus.receiveRequest loop.channel).1
        jobs := x.jobs ++ [⟨server.registry, request⟩] } c id).Perm (x.underWay c id) := by
  obtain ⟨own, ownLoop, ownRunning, registry, _, channel⟩ := attending.runs
  have first := Bus.receiveRequest_eq_item_iff.mp got
  have waits : request ∈ x.bus.requests.waiting loop.channel := List.mem_of_mem_head? first
  constructor
  · refine attending.of_runs attending.runs rfl ?_ ?_
    · intro d _ q waits
      rw [Bus.waiting_receiveRequest] at waits
      split at waits
      · exact List.mem_of_mem_tail waits
      · exact waits
    · intro job member
      rcases List.mem_append.mp member with before | new
      · exact Or.inl before
      · rw [List.mem_singleton.mp new]
        by_cases same : loop.channel = c
        · have places := orderly.apart running ownRunning (same.trans channel.symm)
          subst places
          rw [running] at ownRunning
          cases ownRunning
          exact Or.inr (Or.inl registry)
        · exact Or.inr (Or.inr (attending.elsewhere _ same request waits))
  · intro id concerned
    simp only [underWay, Bus.waiting_receiveRequest, List.map_append, List.map_cons,
      List.map_nil]
    by_cases same : c = loop.channel
    · rw [if_pos same, same]
      cases waiting : x.bus.requests.waiting loop.channel with
      | nil =>
          rw [waiting] at first
          exact absurd first (by simp)
      | cons head tail =>
          rw [waiting] at first
          cases first
          apply List.Perm.filter
          rw [← List.append_assoc, List.tail_cons, List.cons_append]
          exact List.perm_append_singleton _ _
    · have alien := attending.elsewhere loop.channel (fun equal => same equal.symm) request waits
      have differs : ¬ request.id = id := fun equal => alien (equal ▸ concerned)
      rw [if_neg same]
      simp [differs]

/-- A loop that ends is another one: the one that is attended to was not told to stop, and its
channel is held. -/
theorem not_stopping (attending : x.Attending n g c ids) (orderly : x.Orderly) {m : Nat}
    {server : Server} {loop : Loop} (running : x.runningLoop? m = some (server, loop))
    (reason : server.stopped = true ∨
      (x.bus.receiveRequest loop.channel).2 = .disconnected) : m ≠ n ∧ loop.channel ≠ c := by
  obtain ⟨own, ownLoop, ownRunning, _, going, channel⟩ := attending.runs
  have places : m ≠ n := by
    rintro rfl
    rw [running] at ownRunning
    cases ownRunning
    rcases reason with told | gone
    · rw [going] at told
      exact absurd told (by simp)
    · rw [channel] at gone
      exact absurd attending.consumer (Bus.receiveRequest_eq_disconnected_iff.mp gone).2
  exact ⟨places, fun same =>
    places (orderly.apart running ownRunning (same.trans channel.symm))⟩

theorem endLoop (attending : x.Attending n g c ids) {m : Nat} {loop : Loop} (places : m ≠ n)
    (other : loop.channel ≠ c) (server : Server) :
    (x.endLoop m server loop).Attending n g c ids ∧
      ∀ id, (x.endLoop m server loop).underWay c id = x.underWay c id := by
  constructor
  · refine attending.of_runs ?_ rfl ?_ (fun _ => Or.inl)
    · obtain ⟨own, ownLoop, ownRunning, rest⟩ := attending.runs
      obtain ⟨entry, held, runs⟩ := runningLoop?_eq_some_iff.mp ownRunning
      refine ⟨own, ownLoop, runningLoop?_eq_some_iff.mpr ⟨?_, held, runs⟩, rest⟩
      simp only [Exchange.endLoop]
      rw [List.getElem?_set_ne places]
      exact entry
    · intro d _ q waits
      simp only [Exchange.endLoop, Bus.releaseConsumer, Channels.waiting_release] at waits
      split at waits
      · exact absurd waits (by simp)
      · exact waits
  · intro id
    have differs : ¬ c = loop.channel := fun same => other same.symm
    simp only [underWay, Exchange.endLoop, Bus.releaseConsumer, Channels.waiting_release,
      if_neg differs]

/-- A job ends. Its request is not under way any more; the others are. -/
theorem finish (attending : x.Attending n g c ids) {j : Nat} {job : Job}
    (found : x.jobs[j]? = some job) {bus : Bus} (requests : bus.requests = x.bus.requests)
    (consumer : bus.consumer = x.bus.consumer) :
    Attending { x with bus, jobs := x.jobs.eraseIdx j } n g c ids ∧
      ∀ id, (([job.request].filter (·.id == id)) ++
          underWay { x with bus, jobs := x.jobs.eraseIdx j } c id).Perm (x.underWay c id) := by
  constructor
  · refine attending.of_runs attending.runs consumer ?_ ?_
    · intro d _
      simp only [requests]
      exact List.Subset.refl _
    · intro other member
      exact Or.inl (List.mem_of_mem_eraseIdx member)
  · intro id
    obtain ⟨inRange, rfl⟩ := List.getElem?_eq_some_iff.mp found
    have taken := (List.getElem_cons_eraseIdx_perm inRange).map Job.request
    simp only [underWay, requests]
    rw [← List.filter_append]
    apply List.Perm.filter
    calc [x.jobs[j].request] ++ (x.bus.requests.waiting c ++ (x.jobs.eraseIdx j).map Job.request)
        = [x.jobs[j].request] ++ x.bus.requests.waiting c ++
            (x.jobs.eraseIdx j).map Job.request := by rw [List.append_assoc]
      _ ~ x.bus.requests.waiting c ++ [x.jobs[j].request] ++
            (x.jobs.eraseIdx j).map Job.request := List.perm_append_comm.append_right _
      _ = x.bus.requests.waiting c ++
            (x.jobs[j] :: x.jobs.eraseIdx j).map Job.request := by simp
      _ ~ x.bus.requests.waiting c ++ x.jobs.map Job.request := taken.append_left _

/-- Someone else uses the broker, but neither as a receiver at the channel, nor by attaching,
closing, or sending a request with one of the ids. -/
theorem used (attending : x.Attending n g c ids) (streams : List (Option Stream))
    {a : Broker.Action} (receiver : a.receiver? ≠ some c) (attach : a ≠ .listen)
    (close : a ≠ .close) (send : ∀ r, a = .send r → r.id ∉ ids) :
    Attending { x with bus := (Broker.act ⟨x.bus, streams⟩ a).1.bus } n g c ids ∧
      ∀ id ∈ ids, underWay { x with bus := (Broker.act ⟨x.bus, streams⟩ a).1.bus } c id
        = x.underWay c id := by
  constructor
  · refine attending.of_runs attending.runs (Broker.consumer_act attach close) ?_ (fun _ => Or.inl)
    intro d other
    rcases Broker.waiting_act ⟨x.bus, streams⟩ a d with same | ⟨r, _, attached, _⟩ | ⟨_, suffix⟩
    · simp only [same]
      exact List.Subset.refl _
    · have consumer := attending.consumer.symm.trans attached
      cases consumer
      exact absurd rfl other
    · exact suffix.subset
  · intro id concerned
    rcases Broker.waiting_act ⟨x.bus, streams⟩ a c with
      same | ⟨r, rfl, _, appended⟩ | ⟨received, _⟩
    · simp only [underWay, same]
    · have differs : ¬ r.id = id := fun equal => send r rfl (equal ▸ concerned)
      simp only [underWay, appended]
      simp [differs]
    · exact absurd received receiver

/-- A request is taken in, for whose id nothing was under way. -/
theorem accept (attending : x.Attending n g c ids) (inRange : c < x.bus.requests.length)
    (r : Request) (idle : x.underWay c r.id = []) :
    Attending { x with bus := x.bus.accept c r } n g c ids ∧
      ∀ id, underWay { x with bus := x.bus.accept c r } c id
        = if id = r.id then [r] else x.underWay c id := by
  constructor
  · refine attending.of_runs attending.runs rfl ?_ (fun _ => Or.inl)
    intro d other
    simp only [Bus.waiting_accept inRange, if_neg other]
    exact List.Subset.refl _
  · intro id
    simp only [underWay, Bus.waiting_accept inRange, if_true]
    split
    · rename_i same
      subst same
      obtain ⟨queue, jobs⟩ := underWay_eq_nil_iff.mp idle
      have none : (x.bus.requests.waiting c).filter (·.id == r.id) = [] := by simpa using queue
      simpa [none] using jobs
    · rename_i differs
      have other : ¬ r.id = id := fun same => differs same.symm
      simp [other]

end Attending
end EventDispatch.Exchange
