import Stomp.Session.Basic

/-!
# Parts of a state

The subscriptions and the transaction of the states that a session moves to.
-/

namespace Stomp.Session

namespace State

variable (ss : List Subscription) (t? : Option String)

@[simp] theorem subscriptions_consuming : (consuming ss t?).subscriptions = ss := by
  cases t? <;> rfl

@[simp] theorem transaction?_consuming : (consuming ss t?).transaction? = t? := by
  cases t? <;> rfl

@[simp] theorem isConsumer_consuming : (consuming ss t?).mode.isConsumer = true := by
  cases t? <;> rfl

@[simp] theorem subscriptions_producing : (producing t?).subscriptions = [] := by
  cases t? <;> rfl

@[simp] theorem transaction?_producing : (producing t?).transaction? = t? := by
  cases t? <;> rfl

@[simp] theorem isConsumer_producing : (producing t?).mode.isConsumer = false := by
  cases t? <;> rfl

@[simp] theorem subscriptions_emptying : (emptying t?).subscriptions = [] := by
  cases t? <;> rfl

@[simp] theorem transaction?_emptying : (emptying t?).transaction? = t? := by
  cases t? <;> rfl

@[simp] theorem isConsumer_emptying : (emptying t?).mode.isConsumer = false := by
  cases t? <;> rfl

theorem subscriptions_of_not_isConsumer {state : State} (h : state.mode.isConsumer = false) :
    state.subscriptions = [] := by
  cases state with
  | consumer ss => cases h
  | consumerTransaction t ss => cases h
  | producer | producerTransaction t | draining | drainingTransaction t => rfl

theorem eq_of_mode_open {state : State} (h : state.mode = .producer ∨ state.mode = .consumer) :
    state = .producer ∨ ∃ ss, state = .consumer ss := by
  cases state with
  | producer => exact Or.inl rfl
  | consumer ss => exact Or.inr ⟨ss, rfl⟩
  | producerTransaction t | consumerTransaction t ss | draining | drainingTransaction t =>
      simp [mode] at h

theorem eq_of_mode_transaction {state : State}
    (h : state.mode = .producerTransaction ∨ state.mode = .consumerTransaction) :
    ∃ t, state = .producerTransaction t ∨ ∃ ss, state = .consumerTransaction t ss := by
  cases state with
  | producerTransaction t => exact ⟨t, Or.inl rfl⟩
  | consumerTransaction t ss => exact ⟨t, Or.inr ⟨ss, rfl⟩⟩
  | producer | consumer ss | draining | drainingTransaction t => simp [mode] at h

end State

variable (ss : List Subscription) (t? : Option String) (bufferEmpty : Bool)

@[simp] theorem subscriptions_afterUnsubscribe :
    (afterUnsubscribe ss t? bufferEmpty).subscriptions = ss := by
  unfold afterUnsubscribe
  split
  · simp
  · rename_i h
    rw [Classical.not_not.1 h]
    split <;> simp

@[simp] theorem transaction?_afterUnsubscribe :
    (afterUnsubscribe ss t? bufferEmpty).transaction? = t? := by
  unfold afterUnsubscribe
  split
  · simp
  · split <;> simp

@[simp] theorem isConsumer_afterUnsubscribe :
    (afterUnsubscribe ss t? bufferEmpty).mode.isConsumer = true ↔ ss ≠ [] := by
  unfold afterUnsubscribe
  split
  · simp [*]
  · rename_i h
    rw [Classical.not_not.1 h]
    split <;> simp

end Stomp.Session
