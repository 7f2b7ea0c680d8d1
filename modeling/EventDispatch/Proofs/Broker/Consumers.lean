import EventDispatch.Proofs.Broker.Run
/-!
Actions at the consumers' side of a broker.

Purpose: what an action does to the channels at which requests wait. A request that is taken in is
appended to the channel of the attached consumer. Nothing else is appended anywhere, and from a
channel only its own receiver takes.

Main exports: `Broker.Action.receiver?`, `Broker.attended_act`, `Broker.consumer_act`,
`Broker.not_replaced`, `Broker.waiting_act`.
-/

namespace EventDispatch.Broker

/-- The channel at which an action receives, or which it gives up. -/
def Action.receiver? : Action → Option Nat
  | .receive c => some c
  | .leave c => some c
  | _ => none

variable {b : Broker} {a : Action} {c : Nat}

theorem attended_act (stays : a.receiver? ≠ some c)
    (attended : b.bus.requests.attended c = true) :
    (b.act a).1.bus.requests.attended c = true := by
  cases a with
  | listen =>
      simp only [act, Bus.attach, Channels.attended_append_new, attended, ite_self]
  | receive d =>
      rw [← attended]
      exact Bus.attended_receiveRequest b.bus d c
  | leave d =>
      have differs : ¬ c = d := fun same => stays (same ▸ rfl)
      simp only [act, Bus.releaseConsumer]
      rw [Channels.attended_release, if_neg differs]
      exact attended
  | send r =>
      rcases Bus.send_cases b.bus r with ⟨_, result⟩ | ⟨_, _, result⟩ | ⟨_, _, _, _, result⟩
      · simp only [act, result, attended]
      · simp only [act, result, attended]
      · simp only [act, result, Bus.accept, Channels.attended_send, attended]
  | respond r => simp only [act, Bus.requests_publishResponse, attended]
  | close => exact attended
  | poll n =>
      simp only [act]
      split
      · simp only [Bus.requests_poll, attended]
      · exact attended
  | drop n =>
      simp only [act]
      split
      · simp only [Bus.requests_drop, attended]
      · exact attended

/-- The attached consumer changes only when another one attaches or the broker is closed. -/
theorem consumer_act (attach : a ≠ .listen) (close : a ≠ .close) :
    (b.act a).1.bus.consumer = b.bus.consumer := by
  cases a with
  | listen => exact absurd rfl attach
  | receive d => rfl
  | leave d => rfl
  | send r =>
      rcases Bus.send_cases b.bus r with ⟨_, result⟩ | ⟨_, _, result⟩ | ⟨_, _, _, _, result⟩
      · simp only [act, result]
      · simp only [act, result]
      · simp only [act, result, Bus.accept]
  | respond r => simp only [act, Bus.consumer_publishResponse]
  | close => exact absurd rfl close
  | poll n =>
      simp only [act]
      split
      · simp only [Bus.consumer_poll]
      · rfl
  | drop n =>
      simp only [act]
      split
      · simp only [Bus.consumer_drop]
      · rfl

/-- Where the consumer stays the same, nobody attached another one or closed the broker. -/
theorem not_replaced (inRange : c < b.bus.requests.length)
    (stays : (b.act a).1.bus.consumer = some c) : a ≠ .listen ∧ a ≠ .close := by
  constructor
  · rintro rfl
    have fresh : b.bus.requests.length = c := Option.some.inj stays
    exact absurd fresh (Nat.ne_of_gt inRange)
  · rintro rfl
    cases stays

/-- The requests that wait at a channel stay, or one is sent to the consumer there, or the receiver
takes some. -/
theorem waiting_act (b : Broker) (a : Action) (c : Nat) :
    (b.act a).1.bus.requests.waiting c = b.bus.requests.waiting c ∨
    (∃ r, a = .send r ∧ b.bus.consumer = some c ∧
      (b.act a).1.bus.requests.waiting c = b.bus.requests.waiting c ++ [r]) ∨
    (a.receiver? = some c ∧
      (b.act a).1.bus.requests.waiting c <:+ b.bus.requests.waiting c) := by
  cases a with
  | listen => exact Or.inl (Channels.waiting_append_new _ _)
  | receive d =>
      simp only [act]
      rw [Bus.waiting_receiveRequest]
      split
      · rename_i same
        exact Or.inr (Or.inr ⟨same ▸ rfl, List.tail_suffix _⟩)
      · exact Or.inl rfl
  | leave d =>
      simp only [act, Bus.releaseConsumer]
      rw [Channels.waiting_release]
      split
      · rename_i same
        exact Or.inr (Or.inr ⟨same ▸ rfl, List.nil_suffix⟩)
      · exact Or.inl rfl
  | send r =>
      rcases Bus.send_cases b.bus r with
        ⟨_, result⟩ | ⟨_, _, result⟩ | ⟨consumer, attached, attended, _, result⟩
      · simp only [act, result, true_or]
      · simp only [act, result, true_or]
      · simp only [act, result, Bus.accept]
        rw [Channels.waiting_send (Channels.lt_length_of_attended attended)]
        split
        · rename_i same
          exact Or.inr (Or.inl ⟨r, rfl, same ▸ attached, rfl⟩)
        · exact Or.inl rfl
  | respond r => exact Or.inl (by simp only [act, Bus.requests_publishResponse])
  | close => exact Or.inl rfl
  | poll n =>
      simp only [act]
      split
      · exact Or.inl (by simp only [Bus.requests_poll])
      · exact Or.inl rfl
  | drop n =>
      simp only [act]
      split
      · exact Or.inl (by simp only [Bus.requests_drop])
      · exact Or.inl rfl

end EventDispatch.Broker
