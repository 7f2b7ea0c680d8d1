import EventDispatch.Proofs.Handler.Scan
import EventDispatch.Proofs.Service.Settling
/-!
What requests come to does not depend on the schedule.

Purpose: a caller pursues requests with ids that nobody else uses, over the broker of a server that
listens. Whatever the order of looks, loops, jobs and acts of others, the outcomes are those that
the requests come to on their own, except that a request may be refused for the sake of another one
with its id; and under a fair schedule all outcomes are there at some moment.

Main exports: `Scene.InFlight`, `Caller.kept_start`, `Caller.schedule_independent`.
-/

namespace EventDispatch

/-- An id is in use: someone has an unfinished stream for it, or a request with it waits or is
handled. -/
def Scene.InFlight (s : Scene) (id : String) : Prop :=
  (∃ t, some t ∈ s.others ∧ t.unfinished = true ∧ t.id = id) ∨
  (∃ c, ∃ q ∈ s.exchange.bus.requests.waiting c, q.id = id) ∨
  ∃ job ∈ s.exchange.jobs, job.request.id = id

/-- No id is in use where a server has just begun to listen. -/
theorem Scene.not_inFlight_of_listening (g : Registry) (id : String) :
    ¬ (Scene.of [.serve g, .listen 0]).InFlight id := by
  rintro (⟨t, there, _⟩ | ⟨c, q, waits, _⟩ | ⟨job, there, _⟩)
  · cases there
  · cases c with
    | zero => cases waits
    | succ c => cases waits
  · cases there

namespace Pursuit

theorem allSettled?_eq_some_iff {pursuits : List Pursuit} {results : List Settled} :
    allSettled? pursuits = some results ↔ pursuits.map settled? = results.map some := by
  induction pursuits generalizing results with
  | nil => cases results <;> simp [allSettled?]
  | cons p rest inductionHypothesis =>
      cases first : p.settled? with
      | none =>
          simp only [allSettled?, first, Option.bind_eq_bind, Option.bind_none, List.map_cons]
          cases results <;> simp
      | some s =>
          simp only [allSettled?, first, Option.bind_eq_bind, Option.bind_some, List.map_cons,
            Option.bind_eq_some_iff, Option.pure_def, Option.some.injEq]
          cases results with
          | nil => simp
          | cons r others => simp [inductionHypothesis, and_comm]

theorem settled?_eq_some_iff {p : Pursuit} {s : Settled} :
    p.settled? = some s ↔ p.request = s.request ∧ p.progress = .settled s.outcome := by
  obtain ⟨request, progress⟩ := p
  obtain ⟨other, outcome⟩ := s
  cases progress <;> simp [settled?]

theorem exists_allSettled? {pursuits : List Pursuit}
    (every : ∀ p ∈ pursuits, ∃ outcome, p.progress = .settled outcome) :
    ∃ results, allSettled? pursuits = some results := by
  induction pursuits with
  | nil => exact ⟨[], rfl⟩
  | cons p rest inductionHypothesis =>
      obtain ⟨outcome, progress⟩ := every p List.mem_cons_self
      obtain ⟨results, settled⟩ := inductionHypothesis fun q member =>
        every q (List.mem_cons_of_mem p member)
      refine ⟨⟨p.request, outcome⟩ :: results, ?_⟩
      simp [allSettled?, settled, settled?, progress]

end Pursuit

namespace Caller

variable {n c : Nat} {g : Registry} {requests : List Request}

/-! ### Setting out -/

theorem streams_start (s : Scene) (requests : List Request) :
    (start s requests).pursuits.map Pursuit.stream? = List.replicate requests.length none := by
  rw [start, List.map_map]
  exact List.map_const

theorem requests_start (s : Scene) (requests : List Request) :
    (start s requests).pursuits.map Pursuit.request = requests := by
  rw [start, List.map_map]
  exact List.map_id requests

theorem unsent_start {s : Scene} {i : Nat} {p : Pursuit}
    (place : (start s requests).pursuits[i]? = some p) : p.progress = .unsent := by
  obtain ⟨q, _, rfl⟩ := List.mem_map.mp (List.mem_of_getElem? place)
  rfl

/-- The ids of requests are free if those of the single ones are. -/
theorem not_inFlight_of_mem {s : Scene} (free : ∀ q ∈ requests, ¬ s.InFlight q.id) :
    ∀ id ∈ requests.map Request.id, ¬ s.InFlight id :=
  List.forall_mem_map.mpr free

/-- What holds of a caller at every moment holds when the caller sets out. -/
theorem kept_start {s : Scene} (sound : s.Sound) (runs : s.exchange.Runs n g c)
    (consumer : s.exchange.bus.consumer = some c)
    (free : ∀ q ∈ requests, ¬ s.InFlight q.id) : (start s requests).Invariant n g c requests := by
  have unused := not_inFlight_of_mem free
  refine ⟨?_, sound.orderly, ⟨runs, consumer, ?_, ?_⟩, requests_start s requests, ?_, ?_,
    fun place => .unsent (unsent_start place)⟩
  · rw [broker, streams_start]
    exact sound.broker.behind_vacant requests.length
  · intro d _ q waits concerned
    exact unused q.id concerned (Or.inr (Or.inl ⟨d, q, waits, rfl⟩))
  · intro job member concerned
    exact absurd (Or.inr (Or.inr ⟨job, member, rfl⟩)) (unused job.request.id concerned)
  · intro t member unfinished concerned
    exact unused t.id concerned (Or.inl ⟨t, member, unfinished, rfl⟩)
  · intro id concerned _
    rw [Exchange.underWay_eq_nil_iff]
    constructor
    · intro q waits same
      exact unused id concerned (Or.inr (Or.inl ⟨c, q, waits, same⟩))
    · intro job member same
      exact unused id concerned (Or.inr (Or.inr ⟨job, member, same⟩))

/-! ### Results -/

/-- The results are right once they are there. -/
theorem Invariant.results {e : Caller} (kept : e.Invariant n g c requests) {results : List Settled}
    (settled : Pursuit.allSettled? e.pursuits = some results) :
    results.length = requests.length ∧
      ∀ i q, requests[i]? = some q →
        ∃ outcome, results[i]? = some ⟨q, outcome⟩ ∧ Right requests g i q outcome := by
  have entries := Pursuit.allSettled?_eq_some_iff.mp settled
  have lengths := congrArg List.length entries
  simp only [List.length_map] at lengths
  have wanted := congrArg List.length kept.requests
  rw [List.length_map] at wanted
  refine ⟨by omega, ?_⟩
  intro i q own
  obtain ⟨inRange, _⟩ := List.getElem?_eq_some_iff.mp own
  have place := List.getElem?_eq_getElem (l := e.pursuits) (i := i) (by omega)
  have there := List.getElem?_eq_getElem (l := results) (i := i) (by omega)
  have entry := congrArg (·[i]?) entries
  simp only [List.getElem?_map, place, there, Option.map_some, Option.some.injEq] at entry
  obtain ⟨request, progress⟩ := Pursuit.settled?_eq_some_iff.mp entry
  have same := kept.wanted_of_pursuit place
  rw [own, request] at same
  have right : Right requests g i q results[i].outcome := by
    cases kept.phase place with
    | unsent other => rw [progress] at other; cases other
    | asked other => rw [progress] at other; cases other
    | answered other => rw [progress] at other; cases other
    | settled other right =>
        rw [progress] at other
        cases other
        rw [request, ← Option.some.inj same] at right
        exact right
  refine ⟨results[i].outcome, ?_, right⟩
  rw [there, Option.some.inj same]

/-- Schedules make no difference. A server listens, its handlers end every run, no match crashes
while the handlers of the requests are looked for, and the ids of the requests are not in use. Then,
whatever happens while the consumer stays the same, which it does as long as the broker is not
closed and no other one attaches, and nobody else uses the ids: once all outcomes are there, they
stand in the order of the requests, and each is what its request comes to on its own, or the refusal
of an id that another request of the list has too. Under a fair schedule all outcomes are there from
some moment on. -/
theorem schedule_independent (acts : List Scene.Act) (requests : List Request)
    (schedule : Nat → Turn) (listening : (Scene.of acts).exchange.Listening n g)
    (settling : ∀ r ∈ g.toList, r.handler.Settles)
    (matching : ∀ q ∈ requests, ¬ g.CrashesOnMatch q)
    (free : ∀ q ∈ requests, ¬ (Scene.of acts).InFlight q.id)
    (spares : ∀ k, (schedule k).Spares (requests.map Request.id))
    (stays : ∀ k, ((start (Scene.of acts) requests).after schedule k).scene.exchange.bus.consumer
      = (Scene.of acts).exchange.bus.consumer) :
    (∀ k results,
      Pursuit.allSettled? ((start (Scene.of acts) requests).after schedule k).pursuits
        = some results →
      results.length = requests.length ∧
        ∀ i q, requests[i]? = some q →
          ∃ outcome, results[i]? = some ⟨q, outcome⟩ ∧ Right requests g i q outcome) ∧
    (Fair (start (Scene.of acts) requests) n schedule →
      ∃ k results, ∀ l, k ≤ l →
        Pursuit.allSettled? ((start (Scene.of acts) requests).after schedule l).pursuits
          = some results) := by
  obtain ⟨c, runs, consumer⟩ := listening
  have settles := Registry.settles_of_handlers settling matching
  have kept := (kept_start (Scene.sound_of acts) runs consumer free).after settles spares
    fun k => (stays k).trans consumer
  constructor
  · intro k results settled
    exact (kept k).results settled
  · intro fair
    have steady : Steady (start (Scene.of acts) requests) n g c requests schedule :=
      ⟨settles, kept⟩
    obtain ⟨k, settled⟩ := fair.all_settled steady
    obtain ⟨results, found⟩ := Pursuit.exists_allSettled? (settled k (Nat.le_refl k)).2
    refine ⟨k, results, ?_⟩
    intro l later
    rw [(settled l later).1]
    exact found

/-- A request whose data are to be given back. -/
def echoed : Request := { id := "1", pattern := .string "e", data := .bool true }

/-- The request is sent, taken, handled and read, one after the other. -/
def inTurn : Nat → Turn
  | 0 => .look 0
  | 1 => .act (.move (.receive 0))
  | 2 => .act (.move (.finish 0))
  | _ => .look 0

/-- A caller with one request, over the broker of a server that has just begun to listen. -/
def single (g : Registry) (q : Request) : Caller := start (Scene.of [.serve g, .listen 0]) [q]

/-- The request is taken once, its job ends once, and then nothing happens any more. The consumer
stays the same. -/
theorem after_inTurn {g : Registry}
    (handled : g.handle echoed = .answered (.reply "1" (.bool true))) (k : Nat) :
    ((single g echoed).after inTurn (k + 2)).scene.exchange.move (.receive 0) = none ∧
      ((single g echoed).after inTurn (k + 3)).scene.exchange.jobs = [] ∧
      ((single g echoed).after inTurn (k + 2)).scene.exchange.bus.consumer = some 0 := by
  have received : (single g echoed).after inTurn 2 = ⟨⟨⟨{
        consumer := some 0
        pending := [("1", 0)]
        requests := [{}]
        responses := [{}] },
      [{ registry := g, loop := some { channel := 0 } }], [⟨g, echoed⟩]⟩, []⟩,
      [⟨echoed, .waiting ⟨⟨"1", .following 0⟩, .null⟩⟩]⟩ := rfl
  have finished : (single g echoed).after inTurn 3 = ⟨⟨⟨{
        consumer := some 0
        requests := [{}]
        responses := [{ buffer := [.reply "1" (.bool true)] }] },
      [{ registry := g, loop := some { channel := 0 } }], []⟩, []⟩,
      [⟨echoed, .waiting ⟨⟨"1", .following 0⟩, .null⟩⟩]⟩ := by
    rw [after_succ, received]
    simp only [inTurn, turn, Scene.next, Exchange.move, List.getElem?_cons_zero,
      Option.bind_eq_bind, Option.bind_some, handled]
    rfl
  have settled : ∀ m, (single g echoed).after inTurn (m + 4) = ⟨⟨⟨{
        consumer := some 0
        requests := [{}]
        responses := [{ attended := false }] },
      [{ registry := g, loop := some { channel := 0 } }], []⟩, []⟩,
      [⟨echoed, .settled (.ok (.bool true))⟩]⟩ := by
    intro m
    induction m with
    | zero =>
        rw [after_succ, finished]
        rfl
    | succ m inductionHypothesis =>
        rw [after_succ, inductionHypothesis]
        rfl
  cases k with
  | zero =>
      rw [received, finished]
      exact ⟨rfl, rfl, rfl⟩
  | succ k =>
      cases k with
      | zero =>
          rw [finished, settled 0]
          exact ⟨rfl, rfl, rfl⟩
      | succ k =>
          rw [settled k, settled (k + 1)]
          exact ⟨rfl, rfl, rfl⟩

theorem spares_inTurn {ids : List String} (k : Nat) : (inTurn k).Spares ids := by
  rcases k with _ | _ | _ | k <;> trivial

/-- The only pursuit is looked at again and again. -/
theorem looks_inTurn {g : Registry} {q : Request} {k i : Nat} {p : Pursuit}
    (place : ((single g q).after inTurn k).pursuits[i]? = some p) :
    ∃ l, k ≤ l ∧ inTurn l = .look i := by
  have first : i = 0 := by
    have below := lt_length_of_pursuit place
    rw [length_after] at below
    exact Nat.lt_one_iff.mp below
  exact ⟨k + 3, Nat.le_add_right k 3, by rw [first]; rfl⟩

theorem fair_inTurn {g : Registry}
    (handled : g.handle echoed = .answered (.reply "1" (.bool true))) :
    Fair (single g echoed) 0 inTurn where
  looks := fun place _ => looks_inTurn place
  loop := by
    intro k moves
    rcases Nat.lt_or_ge k 2 with early | late
    · exact ⟨1, Nat.le_of_lt_succ early, rfl⟩
    · obtain ⟨m, rfl⟩ := Nat.exists_eq_add_of_le' late
      rw [(after_inTurn handled m).1] at moves
      cases moves
  jobs := by
    intro k job member _
    rcases Nat.lt_or_ge k 3 with early | late
    · obtain rfl | rfl | rfl : k = 0 ∨ k = 1 ∨ k = 2 := by omega
      · cases member
      · cases member
      · exact ⟨2, 0, Nat.le_refl 2, rfl, by rw [List.mem_singleton.mp member]; rfl⟩
    · obtain ⟨m, rfl⟩ := Nat.exists_eq_add_of_le' late
      rw [(after_inTurn handled m).2.1] at member
      cases member

/-- One request, sent to a server that gives back data: its outcome is there, and it is right. -/
theorem settled_in_turn : ∃ (g : Registry) (k : Nat) (results : List Settled),
    Registry.empty.register (.string "e") (.ofFunction fun q => .ok (.value q.data)) .message {}
      = .ok g ∧
    g.outcome? echoed = some (.ok (.bool true)) ∧
    (∀ l, k ≤ l →
      Pursuit.allSettled? ((single g echoed).after inTurn l).pursuits = some results) ∧
    results.length = 1 ∧
    ∃ outcome, results[0]? = some ⟨echoed, outcome⟩ ∧ Right [echoed] g 0 echoed outcome := by
  obtain ⟨g, registered⟩ := Registry.exists_register (Registry.contains_empty (.string "e"))
    (.ofFunction fun q => .ok (.value q.data)) .message {}
  have taken : g.resolve echoed.pattern = .message (.make (.string "e")
      (.ofFunction fun q => .ok (.value q.data)) .message {}) :=
    Registry.resolve_of_register registered
  have handled : g.handle echoed = .answered (.reply "1" (.bool true)) :=
    (Registry.handle_of_message taken).trans rfl
  have settling : ∀ r ∈ g.toList, r.handler.Settles :=
    Registry.settles_of_register registered (Handler.settles_ofFunction _)
  have matching : ∀ q ∈ [echoed], ¬ g.CrashesOnMatch q := by
    intro q member
    rw [List.mem_singleton.mp member]
    exact Registry.not_crashesOnMatch_of_message taken
  have stays : ∀ k, ((single g echoed).after inTurn k).scene.exchange.bus.consumer = some 0 := by
    rintro (_ | _ | k)
    · rfl
    · rfl
    · exact (after_inTurn handled k).2.2
  have laws := schedule_independent (n := 0) (g := g) [.serve g, .listen 0] [echoed] inTurn
    ⟨0, ⟨_, _, rfl, rfl, rfl, rfl⟩, rfl⟩ settling matching
    (fun q _ => Scene.not_inFlight_of_listening g q.id) spares_inTurn stays
  obtain ⟨k, results, settled⟩ := laws.2 (fair_inTurn handled)
  obtain ⟨length, entries⟩ := laws.1 k results (settled k (Nat.le_refl k))
  have outcome := (Registry.handle_eq_answered_iff.mp handled).outcome
  exact ⟨g, k, results, registered, outcome, settled, length, entries 0 echoed rfl⟩

/-! ### A request that is never settled -/

/-- A request for the numbers of a registered sequence, in another order. -/
def squeezed : Request := { id := "1", pattern := .array Pattern.squeezedNumbers.reverse }

/-- A match crashes when a handler is looked for among those of that sequence. -/
theorem crashesOnMatch_squeezed {g : Registry} {handler : Handler}
    (registered : Registry.empty.register (.array Pattern.squeezedNumbers) handler .message {}
      = .ok g) : g.CrashesOnMatch squeezed := by
  refine Registry.resolve_eq_crashed registered (by decide +kernel) ?_
  rw [squeezed, Pattern.matchFully_array, if_pos List.length_reverse.symm,
    Pattern.sorted_squeezedNumbers]
  rfl

/-- The request is taken once and its job ends once, without an answer. Nothing happens after. -/
theorem lost_inTurn {g : Registry} (lost : g.handle squeezed = .lost) (k : Nat) :
    (single g squeezed).after inTurn (k + 3) = ⟨⟨⟨{
        consumer := some 0
        pending := [("1", 0)]
        requests := [{}]
        responses := [{}] },
      [{ registry := g, loop := some { channel := 0 } }], []⟩, []⟩,
      [⟨squeezed, .waiting ⟨⟨"1", .following 0⟩, .null⟩⟩]⟩ := by
  have received : (single g squeezed).after inTurn 2 = ⟨⟨⟨{
        consumer := some 0
        pending := [("1", 0)]
        requests := [{}]
        responses := [{}] },
      [{ registry := g, loop := some { channel := 0 } }], [⟨g, squeezed⟩]⟩, []⟩,
      [⟨squeezed, .waiting ⟨⟨"1", .following 0⟩, .null⟩⟩]⟩ := rfl
  induction k with
  | zero =>
      rw [after_succ, received]
      simp only [inTurn, turn, Scene.next, Exchange.move, List.getElem?_cons_zero,
        Option.bind_eq_bind, Option.bind_some, lost]
      rfl
  | succ k inductionHypothesis =>
      rw [after_succ, inductionHypothesis]
      rfl

/-- This is fair: the loop and the caller have their turns, and no job has an answer to give. -/
theorem fair_lost {g : Registry} (lost : g.handle squeezed = .lost) :
    Fair (single g squeezed) 0 inTurn where
  looks := fun place _ => looks_inTurn place
  loop := by
    intro k moves
    rcases k with _ | _ | _ | k
    · exact ⟨1, Nat.zero_le 1, rfl⟩
    · exact ⟨1, Nat.le_refl 1, rfl⟩
    · cases moves
    · rw [lost_inTurn lost k] at moves
      cases moves
  jobs := by
    intro k job member answers
    have only : job = ⟨g, squeezed⟩ := by
      rcases k with _ | _ | _ | k
      · cases member
      · cases member
      · exact List.mem_singleton.mp member
      · rw [lost_inTurn lost k] at member
        cases member
    rw [only] at answers
    simp [Job.answer?, lost] at answers

/-- A server listens with a handler that settles, and nothing is in the way of a request; but a
match crashes, so that under a fair schedule the outcome is never there. -/
theorem squeezed_never_settled : ∃ g : Registry,
    Registry.empty.register (.array Pattern.squeezedNumbers)
      (.ofFunction fun q => .ok (.value q.data)) .message {} = .ok g ∧
    (∀ r ∈ g.toList, r.handler.Settles) ∧
    (∀ q ∈ [squeezed], ¬ (Scene.of [.serve g, .listen 0]).InFlight q.id) ∧
    (∀ k, (inTurn k).Spares ([squeezed].map Request.id)) ∧
    (∀ k, ((single g squeezed).after inTurn k).scene.exchange.bus.consumer
      = (Scene.of [.serve g, .listen 0]).exchange.bus.consumer) ∧
    Fair (single g squeezed) 0 inTurn ∧
    ∀ k, Pursuit.allSettled? ((single g squeezed).after inTurn k).pursuits = none := by
  obtain ⟨g, registered⟩ := Registry.exists_register
    (Registry.contains_empty (.array Pattern.squeezedNumbers))
    (.ofFunction fun q => .ok (.value q.data)) .message {}
  have lost := Registry.handle_of_crashesOnMatch (crashesOnMatch_squeezed registered)
  have settling : ∀ r ∈ g.toList, r.handler.Settles :=
    Registry.settles_of_register registered (Handler.settles_ofFunction _)
  refine ⟨g, registered, settling, fun q _ => Scene.not_inFlight_of_listening g q.id,
    spares_inTurn, ?_, fair_lost lost, ?_⟩
  · rintro (_ | _ | _ | k)
    · rfl
    · rfl
    · rfl
    · rw [lost_inTurn lost k]
      rfl
  · rintro (_ | _ | _ | k)
    · rfl
    · rfl
    · rfl
    · rw [lost_inTurn lost k]
      rfl

end Caller
end EventDispatch
