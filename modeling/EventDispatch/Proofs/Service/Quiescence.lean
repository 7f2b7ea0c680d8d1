import EventDispatch.Proofs.Service.Moves
/-!
An exchange comes to rest.

Purpose: a move takes a request that was buffered, ends a job or ends a loop, and leaves less to do
than before. So an exchange that keeps moving comes to rest, and `settle` goes on for long enough.

Main exports: `Exchange.left`, `Exchange.left_move`, `Exchange.nextMove?_eq_none_iff`,
`Exchange.settle_eq_runSchedule`, `Exchange.settle_rests`.
-/

namespace EventDispatch

namespace Channels

variable {α : Type}

/-- How much is buffered at all channels. -/
def total (cs : Channels α) : Nat := (cs.map (·.buffer.length)).sum

theorem total_modify {cs : Channels α} {n : Nat} {c : Channel α} (found : cs[n]? = some c)
    (change : Channel α → Channel α) :
    total (cs.modify n change) + c.buffer.length = cs.total + (change c).buffer.length := by
  induction cs generalizing n with
  | nil => simp at found
  | cons head rest inductionHypothesis =>
      cases n with
      | zero =>
          cases found
          simp only [total, List.modify_zero_cons, List.map_cons, List.sum_cons]
          omega
      | succ n =>
          have later := inductionHypothesis (n := n) (by simpa using found)
          simp only [total] at later
          simp only [total, List.modify_succ_cons, List.map_cons, List.sum_cons]
          omega

/-- A packet that is received is buffered no longer. -/
theorem total_receive {cs : Channels α} {n : Nat} {held : Bool} {packet : α}
    (got : (cs.receive n held).2 = .item packet) :
    (cs.receive n held).1.total + 1 = cs.total := by
  unfold receive at got ⊢
  cases found : cs[n]? with
  | none =>
      rw [found] at got
      cases held <;> cases got
  | some c =>
      rw [found] at got
      cases buffer : c.buffer with
      | nil =>
          simp only [Option.map_some, buffer] at got
          cases held <;> cases got
      | cons first rest =>
          have change := total_modify found fun c => { c with buffer := rest }
          simp only [buffer, List.length_cons] at change
          simp only [Option.map_some, buffer]
          omega

theorem total_release (cs : Channels α) (n : Nat) : (cs.release n).total ≤ cs.total := by
  cases found : cs[n]? with
  | none =>
      have same : cs.release n = cs :=
        List.modify_eq_self (by simpa using found)
      exact Nat.le_of_eq (congrArg total same)
  | some c =>
      have change := total_modify found fun _ => { buffer := [], attended := false }
      simp only [List.length_nil, Nat.add_zero] at change
      exact Nat.le_of_add_right_le (Nat.le_of_eq change)

end Channels

/-- Whether the loop of a server runs. -/
def Server.looping (server : Server) : Bool := server.loop.any Loop.running

namespace Exchange

variable {x y : Exchange}

/-- What is left to do: each buffered request is to be received and handled, each job is to be
finished, and each running loop may end. -/
def left (x : Exchange) : Nat :=
  2 * x.bus.requests.total + x.jobs.length + x.servers.countP Server.looping

theorem left_le_movesLeft (x : Exchange) : x.left ≤ x.movesLeft :=
  Nat.add_le_add_left List.countP_le_length _

/-- Every move leaves less to do. -/
theorem left_move {m : Move} (moved : x.move m = some y) : y.left < x.left := by
  have finished : ∀ {j : Nat} {job : Job}, x.jobs[j]? = some job →
      (x.jobs.eraseIdx j).length + 1 = x.jobs.length := by
    intro j job found
    obtain ⟨inRange, _⟩ := List.getElem?_eq_some_iff.mp found
    rw [List.length_eraseIdx_of_lt inRange]
    omega
  rcases move_cases moved with
    ⟨n, server, loop, request, rfl, _, got, rfl⟩ | ⟨n, server, loop, rfl, running, _, rfl⟩ |
    ⟨j, job, response, rfl, found, _, rfl⟩ | ⟨j, job, rfl, found, _, rfl⟩
  · have taken := Channels.total_receive got
    simp only [left, Bus.receiveRequest, List.length_append, List.length_singleton]
    omega
  · obtain ⟨entry, held, runs⟩ := runningLoop?_eq_some_iff.mp running
    obtain ⟨inRange, place⟩ := List.getElem?_eq_some_iff.mp entry
    have looped : server.looping = true := by simp [Server.looping, held, runs]
    have halted : Server.looping { server with loop := some { loop with running := false } }
        = false := rfl
    have fewer := List.countP_set (p := Server.looping) (l := x.servers) (i := n)
      (a := { server with loop := some { loop with running := false } }) inRange
    rw [place, looped, halted] at fewer
    have one : 0 < x.servers.countP Server.looping :=
      List.countP_pos_iff.mpr ⟨server, List.mem_of_getElem? entry, looped⟩
    have released := Channels.total_release x.bus.requests loop.channel
    simp only [left, endLoop, Bus.releaseConsumer]
    simp only [if_true, Bool.false_eq_true, if_false, Nat.add_zero] at fewer
    omega
  · have fewer := finished found
    simp only [left, Bus.requests_publishResponse]
    omega
  · have fewer := finished found
    simp only [left]
    omega

/-- An exchange has a next move unless it is at rest. -/
theorem nextMove?_eq_none_iff : x.nextMove? = none ↔ ∀ m, x.move m = none := by
  simp only [nextMove?, List.findSome?_eq_none_iff, List.mem_append]
  constructor
  · intro still m
    cases moved : x.move m with
    | none => rfl
    | some y =>
        -- A possible move names a server or a job that is there.
        have listed : m ∈ x.loopMoves ∨ m ∈ x.jobMoves := by
          simp only [loopMoves, jobMoves, List.mem_flatMap, List.mem_map, List.mem_range]
          rcases move_cases moved with
            ⟨n, server, loop, request, rfl, running, _⟩ | ⟨n, server, loop, rfl, running, _⟩ |
            ⟨j, job, response, rfl, found, _⟩ | ⟨j, job, rfl, found, _⟩
          · obtain ⟨entry, _⟩ := runningLoop?_eq_some_iff.mp running
            exact Or.inl ⟨n, (List.getElem?_eq_some_iff.mp entry).1, by simp⟩
          · obtain ⟨entry, _⟩ := runningLoop?_eq_some_iff.mp running
            exact Or.inl ⟨n, (List.getElem?_eq_some_iff.mp entry).1, by simp⟩
          · exact Or.inr ⟨j, (List.getElem?_eq_some_iff.mp found).1, rfl⟩
          · exact Or.inr ⟨j, (List.getElem?_eq_some_iff.mp found).1, rfl⟩
        rw [still m listed] at moved
        cases moved
  · intro still m _
    exact still m

theorem exists_move_of_nextMove? (next : x.nextMove? = some y) : ∃ m, x.move m = some y := by
  obtain ⟨m, _, moved⟩ := List.exists_of_findSome?_eq_some next
  exact ⟨m, moved⟩

/-- Whoever keeps moving follows a schedule. -/
theorem moveOn_eq_runSchedule (fuel : Nat) (x : Exchange) :
    ∃ moves, x.moveOn fuel = x.runSchedule moves := by
  induction fuel generalizing x with
  | zero => exact ⟨[], rfl⟩
  | succ fuel inductionHypothesis =>
      unfold moveOn
      cases next : x.nextMove? with
      | none => exact ⟨[], rfl⟩
      | some y =>
          obtain ⟨m, moved⟩ := exists_move_of_nextMove? next
          obtain ⟨moves, schedule⟩ := inductionHypothesis y
          refine ⟨m :: moves, ?_⟩
          simp only [schedule, runSchedule, List.foldl_cons, moved, Option.getD_some]

/-- Whoever has as many moves as are left comes to rest. -/
theorem moveOn_rests {fuel : Nat} (enough : x.left ≤ fuel) (m : Move) :
    (x.moveOn fuel).move m = none := by
  induction fuel generalizing x with
  | zero =>
      unfold moveOn
      cases moved : x.move m with
      | none => rfl
      | some y =>
          have less := left_move moved
          omega
  | succ fuel inductionHypothesis =>
      unfold moveOn
      cases next : x.nextMove? with
      | none => exact nextMove?_eq_none_iff.mp next m
      | some y =>
          obtain ⟨_, moved⟩ := exists_move_of_nextMove? next
          have less := left_move moved
          apply inductionHypothesis
          omega

theorem settle_eq_runSchedule (x : Exchange) : ∃ moves, x.settle = x.runSchedule moves :=
  moveOn_eq_runSchedule x.movesLeft x

/-- Once an exchange has settled, no move is possible. -/
theorem settle_rests (x : Exchange) (m : Move) : x.settle.move m = none :=
  moveOn_rests x.left_le_movesLeft m

end Exchange
end EventDispatch
