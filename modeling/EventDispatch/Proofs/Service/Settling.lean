import EventDispatch.Proofs.Broker.Outcome
import EventDispatch.Proofs.Service.Progress
import EventDispatch.Proofs.Service.Answering
/-!
Callers come to their end.

Purpose: under a fair schedule every pursuit is settled at some moment, and stays so. An unsent
pursuit is looked at; the request of one that was asked moves up in front of the loop and becomes a
job; the job ends; and the pursuit that has its answer is looked at.

Main exports: `Caller.Ready`, `Caller.Fair`, `Caller.Fair.sent`, `Caller.Fair.served`,
`Caller.Fair.settled`, `Caller.Fair.all_settled`.
-/

namespace EventDispatch.Caller

/-- A look at a pursuit is due: nothing was sent yet, or there is a response to read. -/
def Ready (x : Exchange) (p : Pursuit) : Prop :=
  match p.progress with
  | .unsent => True
  | .waiting w => x.bus.buffered w.stream ≠ 0
  | .settled _ => False

/-- A schedule is fair: a pursuit that is to be looked at is looked at, a loop that can take a
request takes one, and a job that comes to an answer ends. Jobs of one request under one registry
are not told apart. -/
structure Fair (e : Caller) (n : Nat) (schedule : Nat → Turn) : Prop where
  looks : ∀ {k i : Nat} {p : Pursuit}, (e.after schedule k).pursuits[i]? = some p →
    Ready (e.after schedule k).scene.exchange p → ∃ l, k ≤ l ∧ schedule l = .look i
  loop : ∀ {k : Nat}, ((e.after schedule k).scene.exchange.move (.receive n)).isSome = true →
    ∃ l, k ≤ l ∧ schedule l = .act (.move (.receive n))
  jobs : ∀ {k : Nat} {job : Job}, job ∈ (e.after schedule k).scene.exchange.jobs →
    job.answer?.isSome = true → ∃ l j, k ≤ l ∧ schedule l = .act (.move (.finish j)) ∧
      (e.after schedule l).scene.exchange.jobs[j]? = some job

/-- A schedule under which what holds of a caller holds at every moment. -/
structure Steady (e : Caller) (n : Nat) (g : Registry) (c : Nat) (wanted : List Request)
    (schedule : Nat → Turn) : Prop where
  settles : g.Settles wanted
  kept : ∀ l, (e.after schedule l).Invariant n g c wanted

variable {e : Caller} {n c : Nat} {g : Registry} {wanted : List Request} {schedule : Nat → Turn}

theorem after_succ (e : Caller) (schedule : Nat → Turn) (k : Nat) :
    e.after schedule (k + 1) = (e.after schedule k).turn (schedule k) := rfl

/-- What is settled stays as it is. -/
theorem settled_stays {i k : Nat} {p : Pursuit} {outcome : Outcome}
    (steady : Steady e n g c wanted schedule)
    (place : (e.after schedule k).pursuits[i]? = some p) (progress : p.progress = .settled outcome)
    {l : Nat} (later : k ≤ l) : (e.after schedule l).pursuits[i]? = some p := by
  induction later with
  | refl => exact place
  | @step l _ inductionHypothesis =>
      rw [after_succ]
      exact (steady.kept l).settled_turn (schedule l) inductionHypothesis progress

/-- A pursuit that waits does so until it is settled, and is not subscribed anew. -/
theorem waiting_stays {i k : Nat} {p : Pursuit} {s : Stream}
    (steady : Steady e n g c wanted schedule)
    (place : (e.after schedule k).pursuits[i]? = some p)
    (progress : p.progress = .waiting ⟨s, .null⟩) {l : Nat} (later : k ≤ l) :
    ((e.after schedule l).pursuits[i]? = some p ∧
      ((e.after schedule l).scene.exchange.bus.serves s = true →
        (e.after schedule k).scene.exchange.bus.serves s = true)) ∨
    ∃ q outcome, (e.after schedule l).pursuits[i]? = some q ∧ q.progress = .settled outcome := by
  have waiting := stream?_eq_some_iff.mpr ⟨_, progress⟩
  induction later with
  | refl => exact Or.inl ⟨place, id⟩
  | @step l _ inductionHypothesis =>
      rcases inductionHypothesis with ⟨there, before⟩ | ⟨q, outcome, there, settled⟩
      · rcases (steady.kept l).pursuit_turn (schedule l) there with
          same | ⟨_, q, after, ⟨unsent, _⟩ | ⟨outcome, settled⟩⟩
        · exact Or.inl ⟨same, fun served =>
            before ((steady.kept l).serves_of_turn (steady.kept (l + 1)).attending.consumer
              there waiting served)⟩
        · rw [progress] at unsent
          cases unsent
        · exact Or.inr ⟨q, outcome, after, settled⟩
      · have later := settled_stays steady there settled (Nat.le_succ l)
        exact Or.inr ⟨q, outcome, later, settled⟩

namespace Fair

/-- An unsent pursuit is sent. -/
theorem sent (fair : Fair e n schedule) (steady : Steady e n g c wanted schedule)
    {i k : Nat} {p : Pursuit} (place : (e.after schedule k).pursuits[i]? = some p) :
    ∃ l q, (e.after schedule l).pursuits[i]? = some q ∧ q.progress ≠ .unsent := by
  by_cases progress : p.progress = .unsent
  · by_contra never
    have unsent : ∀ l, k ≤ l → (e.after schedule l).pursuits[i]? = some p := by
      intro l later
      induction later with
      | refl => exact place
      | @step l _ inductionHypothesis =>
          rcases (steady.kept l).pursuit_turn (schedule l) inductionHypothesis with
            same | ⟨_, q, there, ⟨_, going⟩ | ⟨outcome, settled⟩⟩
          · exact same
          · exact absurd ⟨l + 1, q, there, going⟩ never
          · exact absurd ⟨l + 1, q, there, by rw [settled]; simp⟩ never
    obtain ⟨l, later, looked⟩ := fair.looks place (by simp [Ready, progress])
    obtain ⟨_, q, there, going⟩ := (steady.kept l).look_unsent (unsent l later) progress
    refine never ⟨l + 1, q, ?_, going⟩
    rw [after_succ, looked]
    exact there
  · exact ⟨k, p, place, progress⟩

/-- A pursuit that has its answer is settled. -/
theorem read (fair : Fair e n schedule) (steady : Steady e n g c wanted schedule)
    {i k : Nat} {p : Pursuit} {s : Stream} (place : (e.after schedule k).pursuits[i]? = some p)
    (progress : p.progress = .waiting ⟨s, .null⟩)
    (unserved : (e.after schedule k).scene.exchange.bus.serves s = false) :
    ∃ l q outcome, (e.after schedule l).pursuits[i]? = some q ∧
      q.progress = .settled outcome := by
  have answer : ∀ l, (e.after schedule l).pursuits[i]? = some p →
      (e.after schedule l).scene.exchange.bus.serves s = false →
      ∃ response, s.id = p.request.id ∧
        (e.after schedule l).scene.exchange.bus.unread s = [response] ∧
        g.Answers p.request response := by
    intro l there unserved
    cases (steady.kept l).phase there with
    | unsent other => rw [progress] at other; cases other
    | settled other => rw [progress] at other; cases other
    | asked other _ served =>
        rw [progress] at other
        cases other
        rw [unserved] at served
        exact absurd served (by simp)
    | answered other own _ arrived answers =>
        rw [progress] at other
        cases other
        exact ⟨_, own, arrived, answers⟩
  obtain ⟨response, _, arrived, _⟩ := answer k place unserved
  have ready : Ready (e.after schedule k).scene.exchange p := by
    simp [Ready, progress, Bus.buffered_eq, arrived]
  obtain ⟨l, later, looked⟩ := fair.looks place ready
  rcases waiting_stays steady place progress later with ⟨there, before⟩ | settled
  · have unserved : (e.after schedule l).scene.exchange.bus.serves s = false := by
      rw [Bool.eq_false_iff]
      intro served
      rw [before served] at unserved
      exact absurd unserved (by simp)
    obtain ⟨other, own, arrivedThen, answers⟩ := answer l there unserved
    have settled := ((steady.kept l).look_answered there progress own arrivedThen answers).2
    refine ⟨l + 1, ⟨p.request, .settled other.outcome⟩, other.outcome, ?_, rfl⟩
    rw [after_succ, looked]
    exact settled
  · exact ⟨l, settled⟩

/-- A request that never becomes a job does not wait in front of the loop either: it would move up
and be taken. The induction is on the number of requests up to it. -/
theorem not_waiting (fair : Fair e n schedule) (steady : Steady e n g c wanted schedule)
    {q : Request} {k : Nat}
    (jobless : ∀ l, k ≤ l → ∀ job ∈ (e.after schedule l).scene.exchange.jobs, job.request ≠ q)
    (m : Nat) : ∀ l, k ≤ l →
      q ∉ ((e.after schedule l).scene.exchange.bus.requests.waiting c).take m := by
  induction m with
  | zero =>
      intro l _
      simp
  | succ m inductionHypothesis =>
      intro l later front
      have behind : ∀ {first : Request} {rest : List Request} {j : Nat}, k ≤ j →
          (∃ job ∈ (e.after schedule (j + 1)).scene.exchange.jobs, job.request = first) →
          q ∈ (first :: rest).take (m + 1) → q ∈ rest.take m := by
        intro first rest j afterK started ahead
        rw [List.take_succ_cons] at ahead
        rcases List.mem_cons.mp ahead with head | behind
        · obtain ⟨job, member, same⟩ := started
          exact absurd (same.trans head.symm) (jobless (j + 1) (by omega) job member)
        · exact behind
      -- The request stays among the first ones, until the loop takes one.
      have stays : ∀ j, l ≤ j →
          q ∈ ((e.after schedule j).scene.exchange.bus.requests.waiting c).take (m + 1) := by
        intro j afterL
        induction afterL with
        | refl => exact front
        | @step j afterL inFront =>
            rw [after_succ]
            rcases (steady.kept j).queue_turn (steady.kept (j + 1)).attending.consumer with
              ⟨more, appended⟩ | ⟨_, first, waiting, started⟩
            · rw [appended]
              rw [List.take_append]
              exact List.mem_append_left _ inFront
            · rw [waiting] at inFront
              have closer := behind (Nat.le_trans later afterL) started inFront
              exact (List.take_prefix_take_left (Nat.le_succ m)).mem closer
      cases waiting : (e.after schedule l).scene.exchange.bus.requests.waiting c with
      | nil =>
          rw [waiting] at front
          simp at front
      | cons first rest =>
          obtain ⟨j, afterL, taken⟩ := fair.loop ((steady.kept l).receive_turn waiting).1
          have inFront := stays j afterL
          cases queue : (e.after schedule j).scene.exchange.bus.requests.waiting c with
          | nil =>
              rw [queue] at inFront
              simp at inFront
          | cons head tail =>
              obtain ⟨_, queueAfter, started⟩ := (steady.kept j).receive_turn queue
              rw [← taken, ← after_succ] at queueAfter started
              rw [queue] at inFront
              have closer := behind (by omega) started inFront
              rw [← queueAfter] at closer
              exact inductionHypothesis (j + 1) (by omega) closer

/-- While a pursuit is subscribed there is no job for it: the job would end, and with it the
subscription. -/
theorem jobless (fair : Fair e n schedule) (steady : Steady e n g c wanted schedule) {i k : Nat}
    {p : Pursuit}
    (once : ∀ l, k ≤ l → (e.after schedule l).pursuits[i]? = some p ∧
      (e.after schedule l).scene.exchange.underWay c p.request.id = [p.request]) :
    ∀ l, k ≤ l → ∀ job ∈ (e.after schedule l).scene.exchange.jobs, job.request ≠ p.request := by
  intro l later job member same
  have concerned := (steady.kept l).id_mem (once l later).1
  rw [← same] at concerned
  obtain ⟨response, handled, _⟩ :=
    (steady.kept l).answers_of_job steady.settles member concerned
  obtain ⟨m, j, after, finished, found⟩ := fair.jobs member (by simp [Job.answer?, handled])
  have gone := (steady.kept m).finish_turn found concerned handled
  have still := (once (m + 1) (by omega)).2
  rw [after_succ, finished, ← same, gone] at still
  exact absurd still (by simp)

/-- A pursuit is not subscribed for ever. -/
theorem served (fair : Fair e n schedule) (steady : Steady e n g c wanted schedule) {i k : Nat}
    {p : Pursuit} {s : Stream} (progress : p.progress = .waiting ⟨s, .null⟩) :
    ∃ l, k ≤ l ∧ ¬ ((e.after schedule l).pursuits[i]? = some p ∧
      (e.after schedule l).scene.exchange.bus.serves s = true) := by
  by_contra never
  have once : ∀ l, k ≤ l → (e.after schedule l).pursuits[i]? = some p ∧
      (e.after schedule l).scene.exchange.underWay c p.request.id = [p.request] := by
    intro l later
    by_cases asked : (e.after schedule l).pursuits[i]? = some p ∧
        (e.after schedule l).scene.exchange.bus.serves s = true
    · have waiting := stream?_eq_some_iff.mpr ⟨_, progress⟩
      exact ⟨asked.1, ((steady.kept l).phase asked.1).underWay_of_serves waiting asked.2⟩
    · exact absurd ⟨l, later, asked⟩ never
  have present : p.request ∈ (e.after schedule k).scene.exchange.underWay c p.request.id := by
    rw [(once k (Nat.le_refl k)).2]
    exact List.mem_singleton_self _
  have jobless := fair.jobless steady once
  rcases (Exchange.mem_underWay.mp present).1 with queued | ⟨job, member, same⟩
  · rw [← List.take_length (l := (e.after schedule k).scene.exchange.bus.requests.waiting c)]
      at queued
    exact fair.not_waiting steady jobless _ k (Nat.le_refl k) queued
  · exact jobless k (Nat.le_refl k) job member same

/-- Every pursuit is settled at some moment. -/
theorem settled (fair : Fair e n schedule) (steady : Steady e n g c wanted schedule) {i : Nat}
    (inRange : i < wanted.length) :
    ∃ l q outcome, (e.after schedule l).pursuits[i]? = some q ∧
      q.progress = .settled outcome := by
  have length : (e.after schedule 0).pursuits.length = wanted.length := by
    rw [← (steady.kept 0).requests, List.length_map]
  obtain ⟨k, p, place, going⟩ := fair.sent steady
    (List.getElem?_eq_getElem (l := (e.after schedule 0).pursuits) (by omega : i < _))
  cases (steady.kept k).phase place with
  | unsent progress => exact absurd progress going
  | settled progress => exact ⟨k, p, _, place, progress⟩
  | answered progress _ unserved => exact fair.read steady place progress unserved
  | asked progress _ held =>
      obtain ⟨l, later, unserved⟩ := fair.served (k := k) (i := i) steady progress
      rcases waiting_stays steady place progress later with ⟨there, _⟩ | settled
      · apply fair.read steady there progress
        rw [Bool.eq_false_iff]
        exact fun served => unserved ⟨there, served⟩
      · exact ⟨l, settled⟩

/-- From some moment on all pursuits are settled, and nothing changes for them any more. -/
theorem all_settled (fair : Fair e n schedule) (steady : Steady e n g c wanted schedule) :
    ∃ k, ∀ l, k ≤ l → (e.after schedule l).pursuits = (e.after schedule k).pursuits ∧
      ∀ p ∈ (e.after schedule k).pursuits, ∃ outcome, p.progress = .settled outcome := by
  have upTo : ∀ m, ∃ k, ∀ i, i < m → i < wanted.length → ∃ q outcome,
      (e.after schedule k).pursuits[i]? = some q ∧ q.progress = .settled outcome := by
    intro m
    induction m with
    | zero => exact ⟨0, fun i below => absurd below (Nat.not_lt_zero i)⟩
    | succ m inductionHypothesis =>
        obtain ⟨k, before⟩ := inductionHypothesis
        by_cases inRange : m < wanted.length
        · obtain ⟨l, q, outcome, there, settled⟩ := fair.settled steady inRange
          refine ⟨max k l, ?_⟩
          intro i below within
          rcases Nat.lt_or_ge i m with earlier | same
          · obtain ⟨r, other, place, progress⟩ := before i earlier within
            exact ⟨r, other, settled_stays steady place progress (Nat.le_max_left k l), progress⟩
          · have last : i = m := by omega
            rw [last]
            exact ⟨q, outcome, settled_stays steady there settled (Nat.le_max_right k l), settled⟩
        · refine ⟨k, ?_⟩
          intro i below within
          exact before i (by omega) within
  obtain ⟨k, settled⟩ := upTo wanted.length
  refine ⟨k, ?_⟩
  have length : ∀ l, (e.after schedule l).pursuits.length = wanted.length := by
    intro l
    rw [← (steady.kept l).requests, List.length_map]
  intro l later
  constructor
  · apply List.ext_getElem?
    intro i
    rcases Nat.lt_or_ge i wanted.length with within | beyond
    · obtain ⟨q, outcome, place, progress⟩ := settled i within within
      rw [settled_stays steady place progress later, place]
    · rw [List.getElem?_eq_none (by rw [length]; exact beyond),
        List.getElem?_eq_none (by rw [length]; exact beyond)]
  · intro p member
    obtain ⟨i, place⟩ := List.mem_iff_getElem?.mp member
    have within : i < wanted.length := by
      rw [← length k]
      exact lt_length_of_pursuit place
    obtain ⟨q, outcome, there, progress⟩ := settled i within within
    rw [place] at there
    cases there
    exact ⟨outcome, progress⟩

end Fair
end EventDispatch.Caller
