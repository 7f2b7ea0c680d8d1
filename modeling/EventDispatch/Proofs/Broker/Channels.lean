import EventDispatch.Broker.Bus
/-!
Channels through what waits in them.

Purpose: a channel is known by what waits in it and by whether it is attended. Each operation on
channels is described by what it does to these two, for the channel it names and for every other.

Main exports: `Channels.waiting`, `Channels.waiting_send`, `Channels.waiting_release`,
`Channels.waiting_receive`, `Channels.receive_of_waiting_cons`, `Channels.receive_of_waiting_nil`.
-/

namespace EventDispatch.Channels

variable {α : Type}

/-- What was sent to a channel and not yet received, oldest first. -/
def waiting (cs : Channels α) (n : Nat) : List α := (cs[n]?.map Channel.buffer).getD []

theorem lt_length_of_attended {cs : Channels α} {n : Nat} (attended : cs.attended n = true) :
    n < cs.length := by
  by_cases inRange : n < cs.length
  · exact inRange
  · simp [Channels.attended, List.getElem?_eq_none (Nat.le_of_not_lt inRange)] at attended

/-- A channel that does not exist holds nothing. -/
theorem waiting_of_length_le {cs : Channels α} {n : Nat} (beyond : cs.length ≤ n) :
    cs.waiting n = [] := by
  simp [waiting, List.getElem?_eq_none beyond]

/-! ### Sending -/

@[simp] theorem attended_send (cs : Channels α) (n m : Nat) (x : α) :
    (cs.send n x).attended m = cs.attended m := by
  unfold attended send
  rw [List.getElem?_modify]
  by_cases same : n = m
  · cases found : cs[m]? <;> simp [same]
  · simp [same]

/-- Sending appends to the channel that is named. -/
theorem waiting_send {cs : Channels α} {n : Nat} (inRange : n < cs.length) (m : Nat) (x : α) :
    (cs.send n x).waiting m = if m = n then cs.waiting m ++ [x] else cs.waiting m := by
  unfold waiting send
  rw [List.getElem?_modify]
  by_cases same : m = n
  · subst same
    simp [List.getElem?_eq_getElem inRange]
  · have differs : ¬ n = m := fun equal => same equal.symm
    simp [same, differs]

/-! ### Releasing -/

theorem waiting_release (cs : Channels α) (n m : Nat) :
    (cs.release n).waiting m = if m = n then [] else cs.waiting m := by
  unfold waiting release
  rw [List.getElem?_modify]
  by_cases same : m = n
  · subst same
    cases found : cs[m]? <;> simp
  · have differs : ¬ n = m := fun equal => same equal.symm
    simp [same, differs]

theorem attended_release (cs : Channels α) (n m : Nat) :
    (cs.release n).attended m = if m = n then false else cs.attended m := by
  unfold attended release
  rw [List.getElem?_modify]
  by_cases same : m = n
  · subst same
    cases found : cs[m]? <;> simp
  · have differs : ¬ n = m := fun equal => same equal.symm
    simp [same, differs]

/-! ### A new channel -/

@[simp] theorem waiting_append_new (cs : Channels α) (m : Nat) :
    waiting (cs ++ [({} : Channel α)]) m = cs.waiting m := by
  unfold waiting
  rcases Nat.lt_trichotomy m cs.length with below | same | above
  · rw [List.getElem?_append_left below]
  · subst same
    simp
  · rw [List.getElem?_eq_none (by simp; omega), List.getElem?_eq_none (by omega)]

theorem attended_append_new (cs : Channels α) (m : Nat) :
    attended (cs ++ [({} : Channel α)]) m = if m = cs.length then true else cs.attended m := by
  unfold attended
  rcases Nat.lt_trichotomy m cs.length with below | same | above
  · rw [List.getElem?_append_left below]
    simp [Nat.ne_of_lt below]
  · subst same
    simp
  · rw [List.getElem?_eq_none (by simp; omega), List.getElem?_eq_none (by omega)]
    simp [Nat.ne_of_gt above]

/-! ### Receiving -/

/-- A look at a channel in which something waits gives the oldest packet. -/
theorem receive_of_waiting_cons {cs : Channels α} {n : Nat} {x : α} {xs : List α}
    (ready : cs.waiting n = x :: xs) (held : Bool) :
    cs.receive n held = ((cs.receive n held).1, .item x) := by
  unfold receive
  unfold waiting at ready
  cases found : cs[n]?.map Channel.buffer with
  | none => simp [found] at ready
  | some buffer =>
      have bufferEq : buffer = x :: xs := by simpa [found] using ready
      subst bufferEq
      rfl

/-- A look at a channel in which nothing waits tells whether its sending end is held. -/
theorem receive_of_waiting_nil {cs : Channels α} {n : Nat} (idle : cs.waiting n = [])
    (held : Bool) : cs.receive n held = (cs, if held then .empty else .disconnected) := by
  unfold receive
  unfold waiting at idle
  cases found : cs[n]?.map Channel.buffer with
  | none => rfl
  | some buffer =>
      rw [found] at idle
      cases buffer with
      | nil => rfl
      | cons x xs => simp at idle

@[simp] theorem attended_receive (cs : Channels α) (n m : Nat) (held : Bool) :
    (cs.receive n held).1.attended m = cs.attended m := by
  unfold receive
  split
  · unfold attended
    simp only [List.getElem?_modify]
    by_cases same : n = m
    · cases found : cs[m]? <;> simp [same]
    · simp [same]
  · rfl

/-- Receiving takes the oldest packet of the channel that is named. -/
theorem waiting_receive (cs : Channels α) (n m : Nat) (held : Bool) :
    (cs.receive n held).1.waiting m = if m = n then (cs.waiting m).tail else cs.waiting m := by
  by_cases same : m = n
  · subst same
    unfold receive waiting
    cases found : cs[m]? with
    | none => simp [found]
    | some channel =>
        cases channelBuffer : channel.buffer with
        | nil => simp [found, channelBuffer]
        | cons x xs => simp [found, channelBuffer]
  · have differs : ¬ n = m := fun equal => same equal.symm
    simp only [same, if_false]
    unfold receive
    split
    · simp [waiting, differs]
    · rfl

end EventDispatch.Channels
