import EventDispatch.Proofs.Broker.OtherUsers
import EventDispatch.Proofs.Service.Attending
import EventDispatch.Proofs.Service.Caller
/-!
What holds of a caller at every moment.

Purpose: while a server listens and nobody else uses the ids of the requests, each pursuit is in one
of four phases: unsent; asked, with its request under way once and nothing to read; answered, with
its answer to read; or settled, with the right outcome. Each turn keeps this.

Main exports: `Caller.Right`, `Caller.Phase`, `Caller.Invariant`, `Caller.Invariant.of_untouched`.
-/

namespace EventDispatch

open scoped List

namespace Caller

/-- The outcome of a pursuit is the one that its request comes to on its own. A request whose id
another one of the list carries may be refused instead. -/
def Right (wanted : List Request) (g : Registry) (i : Nat) (request : Request)
    (outcome : Outcome) : Prop :=
  g.outcome? request = some outcome ∨
    (outcome = .error ⟨request.id, .broker (.duplicateRequestId request.id)⟩ ∧
      ∃ j other, j ≠ i ∧ wanted[j]? = some other ∧ other.id = request.id)

/-- How far a pursuit has come. -/
inductive Phase (x : Exchange) (g : Registry) (c : Nat) (wanted : List Request) (i : Nat)
    (p : Pursuit) : Prop where
  | unsent (progress : p.progress = .unsent)
  | asked {s : Stream} (progress : p.progress = .waiting ⟨s, .null⟩) (own : s.id = p.request.id)
      (served : x.bus.serves s = true) (nothing : x.bus.unread s = [])
      (underWay : x.underWay c p.request.id = [p.request])
  | answered {s : Stream} {response : Response} (progress : p.progress = .waiting ⟨s, .null⟩)
      (own : s.id = p.request.id) (unserved : x.bus.serves s = false)
      (arrived : x.bus.unread s = [response]) (answers : g.Answers p.request response)
  | settled {outcome : Outcome} (progress : p.progress = .settled outcome)
      (right : Right wanted g i p.request outcome)

/-- What holds of a caller at every moment. -/
structure Invariant (e : Caller) (n : Nat) (g : Registry) (c : Nat) (wanted : List Request) :
    Prop where
  sound : e.broker.Sound
  orderly : e.scene.exchange.Orderly
  attending : e.scene.exchange.Attending n g c (wanted.map Request.id)
  requests : e.pursuits.map Pursuit.request = wanted
  /-- Nobody else has an unfinished stream with the id of one of the requests. -/
  foreign : ∀ {s : Stream}, some s ∈ e.scene.others → s.unfinished = true →
    s.id ∉ wanted.map Request.id
  /-- Nothing is under way for an id that is not pending. -/
  idle : ∀ {id : String}, id ∈ wanted.map Request.id →
    e.scene.exchange.bus.pending.find? id = none → e.scene.exchange.underWay c id = []
  phase : ∀ {i : Nat} {p : Pursuit}, e.pursuits[i]? = some p →
    Phase e.scene.exchange g c wanted i p

namespace Phase

variable {x y : Exchange} {g : Registry} {c i : Nat} {wanted : List Request} {p : Pursuit}

theorem own_id (phase : Phase x g c wanted i p) {s : Stream} (waiting : p.stream? = some s) :
    s.id = p.request.id := by
  obtain ⟨last, found⟩ := stream?_eq_some_iff.mp waiting
  cases phase with
  | unsent progress => rw [progress] at found; cases found
  | asked progress own => rw [progress] at found; cases found; exact own
  | answered progress own => rw [progress] at found; cases found; exact own
  | settled progress => rw [progress] at found; cases found

/-- A subscribed pursuit has been asked, and its request is under way. -/
theorem underWay_of_serves (phase : Phase x g c wanted i p) {s : Stream}
    (waiting : p.stream? = some s) (served : x.bus.serves s = true) :
    x.underWay c p.request.id = [p.request] := by
  obtain ⟨last, found⟩ := stream?_eq_some_iff.mp waiting
  cases phase with
  | unsent progress => rw [progress] at found; cases found
  | asked _ _ _ _ underWay => exact underWay
  | answered progress _ unserved =>
      rw [progress] at found
      cases found
      rw [served] at unserved
      exact absurd unserved (by simp)
  | settled progress => rw [progress] at found; cases found

/-- A pursuit whose stream is left as it was, and for whose id the same is under way. -/
theorem of_same (phase : Phase x g c wanted i p)
    (same : ∀ {s}, p.stream? = some s →
      y.bus.serves s = x.bus.serves s ∧ y.bus.unread s = x.bus.unread s)
    (underWay : x.underWay c p.request.id ≠ [] →
      (y.underWay c p.request.id).Perm (x.underWay c p.request.id)) :
    Phase y g c wanted i p := by
  cases phase with
  | unsent progress => exact .unsent progress
  | settled progress right => exact .settled progress right
  | answered progress own unserved arrived answers =>
      obtain ⟨serves, unread⟩ := same (stream?_eq_some_iff.mpr ⟨_, progress⟩)
      exact .answered progress own (serves.trans unserved) (unread.trans arrived) answers
  | asked progress own served nothing once =>
      obtain ⟨serves, unread⟩ := same (stream?_eq_some_iff.mpr ⟨_, progress⟩)
      refine .asked progress own (serves.trans served) (unread.trans nothing) ?_
      rw [once] at underWay
      exact List.perm_singleton.mp (underWay (by simp))

end Phase

namespace Invariant

variable {e : Caller} {n c : Nat} {g : Registry} {wanted : List Request}

theorem id_mem (kept : e.Invariant n g c wanted) {i : Nat} {p : Pursuit}
    (place : e.pursuits[i]? = some p) : p.request.id ∈ wanted.map Request.id := by
  rw [← kept.requests]
  exact List.mem_map_of_mem (List.mem_map_of_mem (List.mem_of_getElem? place))

/-- An id of the list that is pending is pending for one of the pursuits. -/
theorem owner (kept : e.Invariant n g c wanted) {id : String} {d : Nat}
    (concerned : id ∈ wanted.map Request.id)
    (found : e.scene.exchange.bus.pending.find? id = some d) :
    ∃ (i : Nat) (p : Pursuit) (s : Stream), e.pursuits[i]? = some p ∧ p.stream? = some s ∧
      s.id = id ∧ e.scene.exchange.bus.serves s = true := by
  obtain ⟨i, s, live, own, following⟩ := kept.sound.owner found
  have served : e.scene.exchange.bus.serves s = true :=
    Bus.serves_iff.mpr ⟨d, following, own ▸ found⟩
  rcases stream?_cases live with ⟨p, place, waiting⟩ | ⟨_, member⟩
  · exact ⟨i, p, s, place, waiting, own, served⟩
  · exact absurd (own ▸ concerned)
      (kept.foreign member (Stream.unfinished_iff.mpr ⟨d, following⟩))

/-- The scene goes on without touching what the pursuits wait for. -/
theorem of_untouched (kept : e.Invariant n g c wanted) {scene : Scene}
    (sound : Broker.Sound (broker ⟨scene, e.pursuits⟩)) (orderly : scene.exchange.Orderly)
    (attending : scene.exchange.Attending n g c (wanted.map Request.id))
    (foreign : ∀ {s : Stream}, some s ∈ scene.others → s.unfinished = true →
      s.id ∉ wanted.map Request.id)
    (same : ∀ {i : Nat} {p : Pursuit} {s : Stream}, e.pursuits[i]? = some p →
      p.stream? = some s → scene.exchange.bus.serves s = e.scene.exchange.bus.serves s ∧
        scene.exchange.bus.unread s = e.scene.exchange.bus.unread s)
    (underWay : ∀ id ∈ wanted.map Request.id,
      (scene.exchange.underWay c id).Perm (e.scene.exchange.underWay c id)) :
    Invariant ⟨scene, e.pursuits⟩ n g c wanted where
  sound := sound
  orderly := orderly
  attending := attending
  requests := kept.requests
  foreign := foreign
  idle := by
    intro id concerned free
    have before : e.scene.exchange.bus.pending.find? id = none := by
      cases found : e.scene.exchange.bus.pending.find? id with
      | none => rfl
      | some d =>
          obtain ⟨i, p, s, place, waiting, own, served⟩ := kept.owner concerned found
          rw [← (same place waiting).1] at served
          obtain ⟨_, _, still⟩ := Bus.serves_iff.mp served
          rw [own, free] at still
          exact absurd still (by simp)
    have nothing := underWay id concerned
    rw [kept.idle concerned before] at nothing
    exact nothing.eq_nil
  phase := by
    intro i p place
    exact (kept.phase place).of_same (same place) (fun _ => underWay _ (kept.id_mem place))

/-- The stream of a pursuit stands in the pursuit's place, and has an id of the list. -/
theorem live (kept : e.Invariant n g c wanted) {i : Nat} {p : Pursuit} {s : Stream}
    (place : e.pursuits[i]? = some p) (waiting : p.stream? = some s) :
    e.broker.stream? i = some s ∧ s.id ∈ wanted.map Request.id := by
  constructor
  · rw [broker_stream?_pursuit place, waiting]
  · rw [(kept.phase place).own_id waiting]
    exact kept.id_mem place

end Invariant
end Caller
end EventDispatch
