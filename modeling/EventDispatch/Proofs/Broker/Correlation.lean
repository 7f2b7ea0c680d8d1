import EventDispatch.Proofs.Broker.Ledger
/-!
Correlation of responses with streams.

Purpose: along every run of a broker a stream yields responses to its own request only, in the order
of publication and from the first one on; whoever looks often enough gets all of them; and a
published response goes to one stream at most.

Main exports: `Broker.Run.Balanced.yielded_of_polls`, `Broker.correlation_safe`.
-/

namespace EventDispatch.Broker

namespace Run

theorem of_append (actions more : List Action) :
    of (actions ++ more) = (of actions).extend more := by
  simp [of, extend, List.foldl_append]

/-- Looking at a live stream as often as it has unread responses yields all that it is owed. The
induction is on the number of looks; each takes the oldest unread response, and none changes what is
owed. -/
theorem Balanced.yielded_of_polls {r : Run} (balanced : r.Balanced) {n : Nat} {s : Stream}
    (live : r.broker.stream? n = some s) {looks : Nat}
    (enough : (r.broker.bus.unread s).length ≤ looks) :
    (r.extend (List.replicate looks (.poll n))).log.yielded n = (r.log.owed n).map Prod.snd := by
  induction looks generalizing r s with
  | zero =>
      have nothing : r.broker.bus.unread s = [] :=
        List.eq_nil_of_length_eq_zero (Nat.le_zero.mp enough)
      have balance := balanced.balance live
      rw [nothing, List.append_nil] at balance
      exact balance
  | succ looks inductionHypothesis =>
      obtain ⟨_, _, _, rest⟩ := balanced.sound.poll_reads live
      have step : r.next (.poll n) =
          ⟨⟨(r.broker.bus.poll s).1, r.broker.streams.set n (some (r.broker.bus.poll s).2.1)⟩,
            .looked n (r.broker.bus.poll s).2.2 :: r.log⟩ := by
        simp [Run.next, act, live]
      have liveNext : (r.next (.poll n)).broker.stream? n = some (r.broker.bus.poll s).2.1 := by
        rw [step, stream?_set _ (lt_length_of_stream? live), if_pos rfl]
      have owedNext : (r.next (.poll n)).log.owed n = r.log.owed n := by
        rw [step]
        rfl
      rw [List.replicate_succ, extend_cons, ← owedNext]
      apply inductionHypothesis (balanced.next (.poll n)) liveNext
      rw [step, rest, List.length_tail]
      omega

end Run

/-- Correlation safety. In every run each response that a stream has yielded carries the id of the
stream's request. What it has yielded is the first part of what it is owed: the responses published
for its id while it was subscribed, in the order of publication. A live stream yields all of it when
it is looked at often enough. No publication is owed to two streams. -/
theorem correlation_safe (actions : List Action) (n : Nat) :
    (∀ response ∈ (Run.of actions).log.yielded n, ∃ request,
      (Run.of actions).log.request? n = some request ∧ response.id = request.id) ∧
    (Run.of actions).log.yielded n <+: ((Run.of actions).log.owed n).map Prod.snd ∧
    ((Run.of actions).log.owed n).Pairwise (·.1 < ·.1) ∧
    (∀ p ∈ (Run.of actions).log.owed n,
      (Run.of actions).log.event? p.1 = some (.published p.2)) ∧
    (∀ s, (Run.of actions).broker.stream? n = some s →
      (∃ request, (Run.of actions).log.request? n = some request ∧ request.id = s.id) ∧
      ∀ looks,
        ((Run.of actions).log.owed n).length ≤ ((Run.of actions).log.yielded n).length + looks →
        (Run.of (actions ++ List.replicate looks (.poll n))).log.yielded n
          = ((Run.of actions).log.owed n).map Prod.snd) ∧
    (∀ m, m ≠ n → ∀ p ∈ (Run.of actions).log.owed m, ∀ q ∈ (Run.of actions).log.owed n,
      p.1 ≠ q.1) := by
  have balanced := Run.balanced_of actions
  have first : (Run.of actions).log.yielded n <+: ((Run.of actions).log.owed n).map Prod.snd := by
    cases live : (Run.of actions).broker.stream? n with
    | none => exact (balanced.gone live).2
    | some s =>
        rw [← balanced.balance live]
        exact List.prefix_append _ _
  refine ⟨?_, first, Log.owed_ascending n _, fun p => Log.event?_of_mem_owed, ?_, ?_⟩
  · intro response member
    obtain ⟨p, owed, responseEq⟩ := List.mem_map.mp (first.mem member)
    obtain ⟨request, found, same⟩ := balanced.own owed
    exact ⟨request, found, responseEq ▸ same⟩
  · intro s live
    refine ⟨balanced.request live, ?_⟩
    intro looks enough
    rw [Run.of_append]
    apply balanced.yielded_of_polls live
    have lengths := congrArg List.length (balanced.balance live)
    simp only [List.length_append, List.length_map] at lengths
    omega
  · intro m differs p owedM q owedN moments
    exact differs (balanced.exclusive owedM owedN moments)

/-- A response that was published before the first look is there to be read. -/
example : (Run.of [.listen, .send { id := "a", pattern := .string "p" },
    .respond (.reply "a" .null), .poll 0]).log.yielded 0 = [.reply "a" .null] := rfl

end EventDispatch.Broker
