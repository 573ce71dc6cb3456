import Centro.Proof.Client.Handlers

namespace Centro

open Library

namespace Client

variable {client : Client} {topic other : JsString} {handler2 stored : Handler2} {target : Target}

@[simp] theorem setHandlers_requests (client : Client) (topic : JsString)
    (handlers : OrderedSet Handler2) :
    (client.setHandlers topic handlers).requests = client.requests := by
  unfold setHandlers
  split <;> rfl

/-- One topic gets other handlers. -/
theorem get_setHandlers (client : Client) (topic other : JsString)
    (handlers : OrderedSet Handler2) :
    ((client.setHandlers topic handlers).subs.get other).map Subscribers.handlers =
      if other = topic then some handlers else (client.subs.get other).map Subscribers.handlers := by
  unfold setHandlers
  split <;> by_cases same : other = topic <;> simp [same]

/-- The handlers of a topic are those that were set last. -/
theorem handlersOf_setHandlers (client : Client) (topic other : JsString)
    (handlers : OrderedSet Handler2) :
    (client.setHandlers topic handlers).handlersOf other =
      if other = topic then handlers else client.handlersOf other := by
  rw [handlersOf, get_setHandlers]
  split <;> rfl

@[simp] theorem subscribed_requests :
    (client.subscribed topic handler2).requests = client.requests :=
  setHandlers_requests ..

/-- An acknowledged subscription adds one handler. -/
theorem mem_subscribed : stored ∈ (client.subscribed topic handler2).handlersOf other ↔
    stored ∈ client.handlersOf other ∨ other = topic ∧ stored = handler2 := by
  rw [subscribed, handlersOf_setHandlers]
  split
  · next same => simp [same]
  · next apart => simp [apart]

@[simp] theorem unsubscribed_requests :
    (client.unsubscribed topic target).requests = client.requests := by
  unfold unsubscribed
  split
  · rfl
  · split
    · rfl
    · exact setHandlers_requests ..

/-- An acknowledged unsubscription leaves the remaining handlers of its topic. -/
theorem mem_unsubscribed : stored ∈ (client.unsubscribed topic target).handlersOf other ↔
    stored ∈ client.handlersOf other ∧
      (other = topic → stored ∈ remaining (client.handlersOf topic) target) := by
  have left : ∀ {handlers : OrderedSet Handler2}, stored ∈ remaining handlers target →
      stored ∈ handlers := by
    intro handlers member
    cases target with
    | all => exact absurd member (OrderedSet.not_mem_empty _)
    | handler2 closure => exact (OrderedSet.mem_delete.mp member).1
    | handler handler => exact member
  unfold unsubscribed
  cases found : client.subs.get topic with
  | none =>
      refine ⟨fun member => ⟨member, ?_⟩, And.left⟩
      rintro rfl
      simp [handlersOf, found] at member
  | some subscribers =>
      have here : client.handlersOf topic = subscribers.handlers := by simp [handlersOf, found]
      simp only [here]
      by_cases same : other = topic
      · subst same
        rw [here]
        split
        · next none =>
            have gone := OrderedSet.size_eq_zero.mp none stored
            simp [handlersOf, gone]
        · rw [handlersOf_setHandlers, if_pos rfl]
          exact ⟨fun member => ⟨left member, fun _ => member⟩, fun both => both.2 rfl⟩
      · split
        · simp [handlersOf, same]
        · simp [handlersOf_setHandlers, same]

/-- The server is asked only about a handler that the topic has. -/
theorem asks_handler2 (asks : client.asks topic (.handler2 handler2) = true) :
    handler2 ∈ client.handlersOf topic := by
  unfold Client.asks at asks
  split at asks
  · cases asks
  · next subscribers found =>
      simp only [Bool.and_eq_true, decide_eq_true_eq] at asks
      simpa [handlersOf, found] using asks.2

/-- The server is not asked about all handlers only when the topic has none. -/
theorem not_asks_all (silent : client.asks topic .all = false) (stored : Handler2) :
    stored ∉ client.handlersOf topic := by
  unfold Client.asks at silent
  split at silent
  · next absent => simp [handlersOf, absent]
  · cases silent

end Client
end Centro
