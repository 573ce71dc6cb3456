import Centro.Proof.HttpExchange.Head

namespace Centro

open Library

namespace HttpExchange

/-- The last subscription succeeds while the response is over, after `left` began to go, or while
the head can be written. -/
def Writable (exchange : HttpExchange) : Event → Prop
  | .subscribed false throws => ∀ topics, exchange.stage = .subscribing topics →
      topics ≤ exchange.acked + 1 → exchange.response.isOver = true ∨
        exchange.left ≠ some .opened ∨ exchange.response.headersSent = false ∧ throws = false
  | _ => True

/-- While `left` is open a callback of the client is outstanding, or `done` listens for the end of
the response. -/
def Held (exchange : HttpExchange) : Prop :=
  exchange.left = some .opened → exchange.stage.Pending ∨
    exchange.listening = true ∧ exchange.closed = false

variable {request : HttpRequest} {before after : HttpExchange}

@[simp] theorem destroyLeft_left (exchange : HttpExchange) :
    exchange.destroyLeft.left ≠ some .opened := by
  obtain ⟨_, _, left, _⟩ := exchange
  rcases left with _ | _ | _ | _ <;> simp [destroyLeft]

/-- The last subscription opens no duplex. -/
theorem subscribed_left (options : HttpOptions) (throws : Bool) {exchange : HttpExchange}
    (gone : exchange.left ≠ some .opened) :
    (exchange.subscribed options throws).left ≠ some .opened := by
  obtain ⟨-, shape⟩ | ⟨-, -, headers, shape⟩ | ⟨-, -, -, response, -, -, -, shape⟩ :=
    subscribed_cases options throws exchange
  · rw [shape]
    exact destroyLeft_left exchange
  · rw [shape]
    exact gone
  · rw [shape]
    exact gone

/-- The last subscription leaves `left` in hand when its head can be written. -/
theorem Held.subscribed {throws : Bool} {topics : Nat} (base : before.Base)
    (writable : before.Writable (.subscribed false throws))
    (subscribing : before.stage = .subscribing topics) (last : topics ≤ before.acked + 1) :
    Held ({ before with acked := before.acked + 1, stage := .subscribed }.subscribed
      request.options throws) := by
  have clear := writable topics subscribing last
  rw [← base.closed] at clear
  obtain closed | closed := Bool.eq_false_or_eq_true before.closed
  · have shape := @subscribed_over request.options throws
      { before with acked := before.acked + 1, stage := .subscribed } closed
    rw [shape]
    exact fun opened => absurd opened (destroyLeft_left _)
  · obtain gone | ⟨unsent, rfl⟩ := clear.resolve_left (by simp [closed])
    · exact fun opened => absurd opened (@subscribed_left request.options throws
        { before with acked := before.acked + 1, stage := .subscribed } gone)
    · obtain ⟨response, -, -, -, shape⟩ := @Base.opens request _ _ base subscribing closed unsent
      rw [shape]
      exact fun _ => Or.inr ⟨rfl, closed⟩

/-- A step keeps `left` in hand. -/
theorem held_step {event : Event} (base : before.Base) (held : before.Held)
    (writable : before.Writable event)
    (stepped : (system request).step before event = some after) : after.Held := by
  intro opened
  cases moved_of_step stepped with
  | started authorizing => exact Or.inl (Or.inl rfl)
  | ready connecting waits => exact Or.inl (Or.inr waits)
  | acked subscribing => exact Or.inl (Or.inr (Or.inr ⟨_, subscribing⟩))
  | settled stages lefts done =>
      rw [done.left] at opened
      exact absurd opened (destroyLeft_left _)
  | subscribed subscribing last => exact Held.subscribed base writable subscribing last opened
  | message handling => exact held opened
  | keepAlive alive => exact held opened
  | closes isOver =>
      rw [onclose_eq] at opened ⊢
      split at opened
      · exact absurd opened (destroyLeft_left _)
      · next deaf =>
          rw [if_neg deaf]
          obtain pending | ⟨listening, -⟩ := held opened
          · exact Or.inl pending
          · exact absurd listening deaf
  | quiet lefts =>
      obtain rfl | rfl := lefts
      · exact held opened
      · cases opened

/-- The duplex `left` is in hand in every run whose heads can be written. -/
theorem held_of_reached {exchange : HttpExchange}
    (reached : (system request).ReachableUnder Writable exchange) : exchange.Held := by
  induction reached with
  | initial => exact fun opened => by cases opened
  | step earlier writable stepped held =>
      exact held_step (base_of_reached earlier.reachable) held writable stepped

/-- Each other step ends the response at once and leaves the duplex open. -/
theorem unwritable_step {throws : Bool} (base : before.Base)
    (refused : ¬before.Writable (.subscribed false throws))
    (stepped : (system request).step before (.subscribed false throws) = some after) :
    after.response.isOver = true ∧ after.stage = .subscribed ∧ after.left = some .opened := by
  simp only [Writable, not_forall, not_or, ne_eq, not_not] at refused
  obtain ⟨topics, subscribing, last, going, opened, blocked⟩ := refused
  rw [← base.closed] at going
  obtain ⟨_, same, ⟨more, -⟩ | ⟨-, rfl⟩⟩ := subscribed_step stepped
  · obtain rfl : topics = _ := ExchangeStage.subscribing.inj (subscribing.symm.trans same)
    exact absurd more (Nat.not_lt.mpr last)
  · obtain ⟨closed, -⟩ | ⟨-, -, headers, shape⟩ | ⟨-, unsent, calm, -⟩ :=
      subscribed_cases request.options throws
        { before with acked := before.acked + 1, stage := .subscribed }
    · exact absurd closed going
    · rw [shape]
      exact ⟨HttpResponse.finish_over _ _, rfl, opened⟩
    · exact absurd ⟨unsent, calm⟩ blocked

/-- Nothing is outstanding only after the last callback. -/
theorem idle_cases {exchange : HttpExchange} (idle : exchange.idle = true) :
    ¬exchange.stage.Pending ∧ exchange.left ≠ some .destroying := by
  simp only [HttpExchange.idle, Bool.and_eq_true, decide_eq_true_eq] at idle
  obtain ⟨⟨⟨stages, settled⟩, -⟩, -⟩ := idle
  refine ⟨?_, settled⟩
  rintro (connecting | publishing | ⟨topics, subscribing⟩)
  · simp [connecting] at stages
  · simp [publishing] at stages
  · simp [subscribing] at stages

end HttpExchange

open HttpExchange in
/-- In every run in which the head can be written after the last subscription, `left` was destroyed
once the response is over and nothing is outstanding. -/
theorem left_destroyed {request : HttpRequest} {exchange : HttpExchange}
    (reached : (system request).ReachableUnder Writable exchange)
    (isOver : exchange.response.isOver = true) (idle : exchange.idle = true) :
    exchange.left = none ∨ exchange.left = some .destroyed := by
  have base := base_of_reached reached.reachable
  obtain ⟨settled, gone⟩ := idle_cases idle
  have shut : exchange.left ≠ some .opened := by
    intro opened
    obtain pending | ⟨-, going⟩ := held_of_reached reached opened
    · exact settled pending
    · rw [base.closed, isOver] at going
      cases going
  rcases left : exchange.left with _ | stage
  · exact Or.inl rfl
  · cases stage with
    | opened => exact absurd left shut
    | destroying => exact absurd left gone
    | destroyed => exact Or.inr rfl

namespace HttpExchange

/-- The client of the transport goes away while messages arrive. -/
def sampleLeft : List Event :=
  [.authorized none false, .ready [] false, .subscribed false false, .subscribed false false,
    .message (.handler .empty), .close, .tick]

instance (exchange : HttpExchange) : (event : Event) → Decidable (exchange.Writable event)
  | .subscribed false throws =>
      match stage : exchange.stage with
      | .subscribing topics => decidable_of_iff (topics ≤ exchange.acked + 1 →
          exchange.response.isOver = true ∨ exchange.left ≠ some .opened ∨
            exchange.response.headersSent = false ∧ throws = false)
          (by simp [Writable, stage])
      | .authorizing | .connecting | .publishing | .subscribed | .finished =>
          .isTrue (by simp [Writable, stage])
  | .subscribed true _ | .authorized _ _ | .cancelled _ | .ready _ _ | .published _ _ | .message _
  | .keepAlive | .clientError _ _ | .destroyed _ | .leftClosed _ | .prefinish | .close | .tick
  | .timeout => .isTrue trivial

end HttpExchange

open HttpExchange in
theorem left_destroyed_sample : ∃ exchange,
    (system sampleRequest).run (system sampleRequest).initial sampleLeft = some exchange ∧
    exchange.response.isOver = true ∧ exchange.idle = true ∧
    (exchange.left = none ∨ exchange.left = some .destroyed) := by
  have runs : ((system sampleRequest).run (system sampleRequest).initial sampleLeft).map
      (fun exchange => exchange.response.isOver && exchange.idle) = some true := by decide
  have writable : (system sampleRequest).AllSteps Writable (system sampleRequest).initial
      sampleLeft := by decide
  obtain ⟨exchange, ran, quiet⟩ := Option.map_eq_some_iff.mp runs
  obtain ⟨isOver, idle⟩ := Bool.and_eq_true_iff.mp quiet
  exact ⟨exchange, ran, isOver, idle,
    left_destroyed (TransitionSystem.ReachableUnder.initial.run writable ran) isOver idle⟩

open HttpExchange in
/-- The head cannot be written after a message, which leaves the connection open. -/
theorem left_undestroyed : ∃ exchange,
    (system sampleRequest).run (system sampleRequest).initial sampleBetween = some exchange ∧
    exchange.response.isOver = true ∧ exchange.idle = true ∧ exchange.left = some .opened := by
  have runs : ((system sampleRequest).run (system sampleRequest).initial sampleBetween).map
      (fun exchange => exchange.response.isOver && exchange.idle &&
        exchange.left = some .opened) = some true := by decide
  obtain ⟨exchange, ran, facts⟩ := Option.map_eq_some_iff.mp runs
  simp only [Bool.and_eq_true, decide_eq_true_eq] at facts
  exact ⟨exchange, ran, facts.1.1, facts.1.2, facts.2⟩

end Centro
