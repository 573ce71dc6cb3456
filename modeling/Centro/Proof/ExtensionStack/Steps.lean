import Centro.Construction.ExtensionStack

namespace Centro

open Library

variable {Options Arguments : Type*}

namespace PublishExtension

/-- A handler that passes a request on keeps a slot for it. -/
def acquired (level number : Nat) : PublishExtension → List (Nat × Nat)
  | limitActivePublications _ => [(level, number)]
  | _ => []

/-- A handler that passes a request on sets a timer for it. -/
def started (level number : Nat) : PublishExtension → List (Nat × Nat)
  | timeoutPublishStreams => [(level, number)]
  | _ => []

/-- A handler that pipes the stream of a request through a transform passes this on. -/
def wraps : PublishExtension → Bool
  | limitConnPublishedData | throttlePublishStreams => true
  | _ => false

def wrap (extension : PublishExtension) (level : Nat)
    (request : PublishRequest PublishStream Options) : PublishRequest PublishStream Options :=
  { request with
    stream.transforms := request.stream.transforms ++ if extension.wraps then [level] else [] }

/-- A handler counts the requests of this connection. -/
def counts (level connection : Nat) : PublishExtension → Nat × Nat → Nat
  | limitConnPublishedMessages _ _, key => if key = (level, connection) then 1 else 0
  | _, _ => 0

/-- A handler refuses a request when its limit is reached. -/
def Full (level : Nat) (request : PublishRequest PublishStream Options)
    (state : ExtensionStack Options Arguments) : PublishExtension → Prop
  | limitActivePublications maxPublications => maxPublications ≤ state.count level
  | limitConnPublishedMessages maxConnPublishedMessages _ =>
      maxConnPublishedMessages ≤ state.messages (level, request.connection)
  | _ => False

end PublishExtension

namespace ExtensionStack

variable {extensions : List PublishExtension} {level : Nat}
  {state next before after : ExtensionStack Options Arguments}
  {answered passed : StackAnswer Arguments}
  {request onward : PublishRequest PublishStream Options} {extension : PublishExtension}

/-- Only handlers of the right kind have slots and timers. -/
structure Typed (extensions : List PublishExtension) (state : ExtensionStack Options Arguments) :
    Prop where
  decrement : ∀ pair ∈ state.decrement,
    pair ∈ (extensionAt extensions pair.1).acquired pair.1 pair.2
  timers : ∀ pair ∈ state.timers, pair ∈ (extensionAt extensions pair.1).started pair.1 pair.2

/-- A handler passed a request on. -/
structure Onward (extension : PublishExtension) (level : Nat)
    (request onward : PublishRequest PublishStream Options)
    (before after : ExtensionStack Options Arguments) : Prop where
  room : ¬extension.Full level request before
  wrapped : onward = extension.wrap level request
  count : ∀ other, after.count other =
    before.count other + (extension.acquired level request.stream.number).countP (·.1 = other)
  messages : ∀ key, after.messages key =
    before.messages key + extension.counts level request.connection key
  same : after = { before with
    count := after.count
    decrement := before.decrement ++ extension.acquired level request.stream.number
    messages := after.messages
    timers := before.timers ++ extension.started level request.stream.number
    calls := before.calls ++ [.next level request] }

/-- A handler refused a request. -/
structure Refused (extension : PublishExtension) (level : Nat)
    (request : PublishRequest PublishStream Options) (answered : StackAnswer Arguments)
    (before after : ExtensionStack Options Arguments) : Prop where
  full : extension.Full level request before
  number : answered.number = request.stream.number
  connection : answered.connection = request.connection
  answer : ∃ message, answered.answer = .error message
  messages : ∀ key, after.messages key =
    before.messages key + extension.counts level request.connection key
  same : after = { before with
    messages := after.messages
    calls := before.calls ++ [.refused level request answered] }

/-- A callback of a handler passed its answer on. -/
structure Released (level : Nat) (answered : StackAnswer Arguments)
    (before after : ExtensionStack Options Arguments) : Prop where
  count : ∀ other, after.count other = before.count other -
    if other = level ∧ (level, answered.number) ∈ before.decrement then 1 else 0
  same : after = { before with
    count := after.count
    decrement := before.decrement.erase (level, answered.number)
    timers := before.timers.erase (level, answered.number)
    calls := before.calls ++ [.callback level answered] }

/-- A handler notes what it does with a request. -/
theorem request_layers (state : ExtensionStack Options Arguments)
    (request : PublishRequest PublishStream Options) :
    (layers extensions level).request state request =
      match publishRequested level state request (extensionAt extensions level) with
      | (next, .error answered) => (next.call (.refused level request answered), .error answered)
      | (next, .ok onward) => (next.call (.next level request), .ok onward) := rfl

/-- An extension that passes a request on does what its kind does. -/
theorem onward_of_request
    (passes : (layers extensions level).request state request = (next, .ok onward)) :
    Onward (extensionAt extensions level) level request onward state next := by
  rw [request_layers] at passes
  cases kind : extensionAt extensions level with
  | limitActivePublications maxPublications =>
      simp only [kind, publishRequested, refuse] at passes
      by_cases full : state.count level ≥ maxPublications
      · simp [full] at passes
      · simp only [full, if_false, Prod.mk.injEq, Except.ok.injEq] at passes
        obtain ⟨rfl, rfl⟩ := passes
        refine ⟨full, by simp [PublishExtension.wrap, PublishExtension.wraps], fun other => ?_,
          fun _ => rfl, by simp [call, PublishExtension.acquired, PublishExtension.started]⟩
        by_cases same : other = level
        · subst same
          simp [PublishExtension.acquired, call]
        · simp [PublishExtension.acquired, call, same, Ne.symm same]
  | limitConnPublishedMessages maxMessages closeConn =>
      simp only [kind, publishRequested, refuse] at passes
      by_cases full : state.messages (level, request.connection) + 1 > maxMessages
      · simp [full] at passes
      · simp only [full, if_false, Prod.mk.injEq, Except.ok.injEq] at passes
        obtain ⟨rfl, rfl⟩ := passes
        refine ⟨fun reached => full (Nat.lt_succ_of_le reached),
          by simp [PublishExtension.wrap, PublishExtension.wraps],
          fun _ => by simp [PublishExtension.acquired, call], fun key => ?_,
          by simp [call, PublishExtension.acquired, PublishExtension.started]⟩
        by_cases same : key = (level, request.connection)
        · subst same
          simp [PublishExtension.counts, call]
        · simp [PublishExtension.counts, call, same]
  | _ =>
      simp only [kind, publishRequested, Prod.mk.injEq, Except.ok.injEq] at passes
      obtain ⟨rfl, rfl⟩ := passes
      exact ⟨id, by simp [PublishExtension.wrap, PublishExtension.wraps],
        fun _ => by simp [PublishExtension.acquired, call], fun _ => rfl,
        by simp [call, PublishExtension.acquired, PublishExtension.started]⟩

/-- An extension that refuses a request does what its kind does. -/
theorem refused_of_request
    (refuses : (layers extensions level).request state request = (next, .error answered)) :
    Refused (extensionAt extensions level) level request answered state next := by
  rw [request_layers] at refuses
  cases kind : extensionAt extensions level with
  | limitActivePublications maxPublications =>
      simp only [kind, publishRequested, refuse] at refuses
      by_cases full : state.count level ≥ maxPublications
      · simp only [full, if_true, Prod.mk.injEq, Except.error.injEq] at refuses
        obtain ⟨rfl, rfl⟩ := refuses
        exact ⟨full, rfl, rfl, ⟨_, rfl⟩, fun _ => rfl, by simp [call]⟩
      · simp [full] at refuses
  | limitConnPublishedMessages maxMessages closeConn =>
      simp only [kind, publishRequested, refuse] at refuses
      by_cases full : state.messages (level, request.connection) + 1 > maxMessages
      · simp only [full, if_true, Prod.mk.injEq, Except.error.injEq] at refuses
        obtain ⟨rfl, rfl⟩ := refuses
        refine ⟨Nat.le_of_lt_succ full, rfl, rfl, ⟨_, rfl⟩, fun key => ?_, by simp [call]⟩
        by_cases same : key = (level, request.connection)
        · subst same
          simp [PublishExtension.counts, call]
        · simp [PublishExtension.counts, call, same]
      · simp [full] at refuses
  | _ => simp [kind, publishRequested] at refuses

/-- A handler of another kind has no variable to release. -/
theorem Typed.erase (typed : state.Typed extensions) (level number : Nat) :
    ((extensionAt extensions level).acquired level number = [] →
      state.decrement.erase (level, number) = state.decrement) ∧
    ((extensionAt extensions level).started level number = [] →
      state.timers.erase (level, number) = state.timers) := by
  constructor
  · intro other
    refine List.erase_of_not_mem fun member => ?_
    have kind := typed.decrement _ member
    rw [other] at kind
    cases kind
  · intro other
    refine List.erase_of_not_mem fun member => ?_
    have kind := typed.timers _ member
    rw [other] at kind
    cases kind

/-- An extension that passes an answer on has freed its slot. -/
theorem released_of_answer (typed : state.Typed extensions)
    (answers : (layers extensions level).answer state answered = (next, some passed)) :
    passed = answered ∧ Released level answered state next := by
  have erased := typed.erase level answered.number
  have empty (none : (extensionAt extensions level).acquired level answered.number = []) :
      (level, answered.number) ∉ state.decrement := by
    intro member
    have kind := typed.decrement _ member
    rw [none] at kind
    cases kind
  change callback level (state.call (.callback level answered)) answered
    (extensionAt extensions level) = _ at answers
  cases kind : extensionAt extensions level with
  | limitActivePublications maxPublications =>
      simp only [kind, callback] at answers
      rw [kind] at erased
      have timers := erased.2 rfl
      split at answers
      · next member =>
          simp only [Prod.mk.injEq, Option.some.injEq] at answers
          obtain ⟨rfl, rfl⟩ := answers
          refine ⟨rfl, ⟨fun other => ?_, by simp [call, timers]⟩⟩
          by_cases same : other = level
          · subst same
            rw [if_pos ⟨rfl, member⟩]
            exact Function.update_self ..
          · rw [if_neg fun both => same both.1, Int.sub_zero]
            exact Function.update_of_ne same ..
      · next absent =>
          simp only [Prod.mk.injEq, Option.some.injEq] at answers
          obtain ⟨rfl, rfl⟩ := answers
          have decrement : state.decrement.erase (level, answered.number) = state.decrement :=
            List.erase_of_not_mem absent
          refine ⟨rfl, ⟨fun other => ?_, by simp [call, timers, decrement]⟩⟩
          rw [if_neg fun both => absent both.2, Int.sub_zero]
          rfl
  | timeoutPublishStreams =>
      simp only [kind, callback, Prod.mk.injEq, Option.some.injEq] at answers
      rw [kind] at erased empty
      obtain ⟨rfl, rfl⟩ := answers
      exact ⟨rfl, ⟨fun _ => by simp [call, empty rfl], by simp [call, erased.1 rfl]⟩⟩
  | backoff =>
      simp only [kind, callback] at answers
      rw [kind] at erased empty
      split at answers
      · simp at answers
      · simp only [Prod.mk.injEq, Option.some.injEq] at answers
        obtain ⟨rfl, rfl⟩ := answers
        exact ⟨rfl, ⟨fun _ => by simp [call, empty rfl],
          by simp [call, erased.1 rfl, erased.2 rfl]⟩⟩
  | _ =>
      simp only [kind, callback, Prod.mk.injEq, Option.some.injEq] at answers
      rw [kind] at erased empty
      obtain ⟨rfl, rfl⟩ := answers
      exact ⟨rfl, ⟨fun _ => by simp [call, empty rfl], by simp [call, erased.1 rfl, erased.2 rfl]⟩⟩

/-- A callback keeps its answer until `drain` while the connection backs off. -/
structure Delays (extensions : List PublishExtension) (delayed : DelayedAnswer Arguments)
    (before after : ExtensionStack Options Arguments) : Prop where
  kind : extensionAt extensions delayed.level = .backoff
  backs : before.boProp delayed.answered.connection = true
  same : after = { before with
    drain := Function.update before.drain delayed.answered.connection
      ((before.drain delayed.answered.connection).once before.delayed.length)
    delayed := before.delayed ++ [delayed]
    calls := before.calls ++ [.callback delayed.level delayed.answered] }

/-- Only `backoff` holds an answer. -/
theorem delays_of_answer
    (answers : (layers extensions level).answer state answered = (next, none)) :
    Delays extensions { level, answered } state next := by
  change callback level (state.call (.callback level answered)) answered
    (extensionAt extensions level) = _ at answers
  cases kind : extensionAt extensions level with
  | backoff =>
      simp only [kind, callback] at answers
      split at answers
      · next backs =>
          simp only [Prod.mk.injEq, and_true] at answers
          obtain rfl := answers
          exact ⟨kind, backs, rfl⟩
      · simp at answers
  | limitActivePublications maxPublications =>
      simp only [kind, callback] at answers
      split at answers <;> simp at answers
  | _ => simp [kind, callback] at answers

/-- A callback is called, whatever it does. -/
theorem called_of_answer (extensions : List PublishExtension) (level : Nat)
    (state : ExtensionStack Options Arguments) (answered : StackAnswer Arguments) :
    ((layers extensions level).answer state answered).1.requests = state.requests ∧
      ((layers extensions level).answer state answered).1.published = state.published ∧
      ((layers extensions level).answer state answered).1.calls =
        state.calls ++ [.callback level answered] := by
  change (callback level (state.call (.callback level answered)) answered
    (extensionAt extensions level)).1.requests = _ ∧ _
  cases kind : extensionAt extensions level with
  | limitActivePublications maxPublications =>
      simp only [layers, layer, kind, callback]
      split <;> exact ⟨rfl, rfl, rfl⟩
  | backoff =>
      simp only [layers, layer, kind, callback]
      split <;> exact ⟨rfl, rfl, rfl⟩
  | _ =>
      simp only [layers, layer, kind, callback]
      exact ⟨rfl, rfl, rfl⟩

end ExtensionStack
end Centro
