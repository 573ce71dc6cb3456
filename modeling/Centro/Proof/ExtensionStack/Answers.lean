import Centro.Proof.ExtensionStack.Steps

namespace Centro

open Library

variable {Options Arguments : Type*}

namespace StackAnswer

/-- The answers that are for a request of this connection. -/
def onConnection (connection : Nat) (answered : StackAnswer Arguments) :
    Option (StackAnswer Arguments) :=
  if answered.connection = connection then some answered else none

end StackAnswer

namespace StackCall

/-- An answer is issued by a handler that refuses or by the default handler. -/
def issued (connection : Nat) : StackCall Options Arguments → Option (StackAnswer Arguments)
  | refused _ _ answered => answered.onConnection connection
  | completed answered => answered.onConnection connection
  | _ => none

def response (connection : Nat) : StackCall Options Arguments → Option (StackAnswer Arguments)
  | cb answered => answered.onConnection connection
  | _ => none

end StackCall

namespace ExtensionStack

variable {extensions : List PublishExtension} {level connection : Nat}
  {state next before after : ExtensionStack Options Arguments} {answered : StackAnswer Arguments}
  {request onward : PublishRequest PublishStream Options}

def issued (state : ExtensionStack Options Arguments) (connection : Nat) :
    List (StackAnswer Arguments) :=
  state.calls.filterMap (StackCall.issued connection)

def responses (state : ExtensionStack Options Arguments) (connection : Nat) :
    List (StackAnswer Arguments) :=
  state.calls.filterMap (StackCall.response connection)

/-- The requests came on these connections. -/
def connections (state : ExtensionStack Options Arguments) : List Nat :=
  state.requests.map PublishRequest.connection

/-- These answers wait for `drain`. -/
def held (state : ExtensionStack Options Arguments) (connection : Nat) :
    List (DelayedAnswer Arguments) :=
  (state.drain connection).waiting.filterMap (state.delayed[·]?)

/-- The handlers have these slots and timers for requests. -/
def pairs (state : ExtensionStack Options Arguments) : List (Nat × Nat) :=
  state.decrement ++ state.timers

/-- An answer rises from a level, or a request sinks to one, while the others are settled. -/
inductive Flight (Arguments : Type*) where
  | settled
  | rising (level : Nat) (answered : StackAnswer Arguments)
  | sinking (level number : Nat)

namespace Flight

def flying (connection : Nat) : Flight Arguments → List (StackAnswer Arguments)
  | rising _ answered => (answered.onConnection connection).toList
  | _ => []

@[simp] theorem flying_settled (connection : Nat) :
    (settled : Flight Arguments).flying connection = [] := rfl

@[simp] theorem flying_sinking (connection level number : Nat) :
    (sinking level number : Flight Arguments).flying connection = [] := rfl

@[simp] theorem flying_rising (connection level : Nat) (answered : StackAnswer Arguments) :
    (rising level answered).flying connection = (answered.onConnection connection).toList := rfl

/-- What is in flight for this request has not passed this level. -/
def Beyond (level number : Nat) : Flight Arguments → Prop
  | settled => True
  | rising source answered => answered.number = number → level < source
  | sinking target other => other = number → level < target

end Flight

/-- The answers that wait for `drain` are known, and a drain that has begun releases them. -/
structure Waits (state : ExtensionStack Options Arguments) : Prop where
  nodup : ∀ connection, (state.drain connection).waiting.Nodup
  known : ∀ connection, ∀ number ∈ (state.drain connection).waiting,
    ∃ delayed, state.delayed[number]? = some delayed ∧ delayed.answered.connection = connection
  covered : ∀ connection, state.boProp connection = false → (state.drain connection).Covered

/-- A handler that delays responses has neither slots nor timers. -/
theorem Typed.not_backoff (typed : state.Typed extensions) {pair : Nat × Nat}
    (member : pair ∈ state.pairs) : extensionAt extensions pair.1 ≠ .backoff := by
  intro kind
  rcases List.mem_append.mp member with member | member
  · have inside := typed.decrement pair member
    rw [kind] at inside
    cases inside
  · have inside := typed.timers pair member
    rw [kind] at inside
    cases inside

/-- A slot or a timer belongs to an attached extension. -/
theorem Typed.within (typed : state.Typed extensions) {pair : Nat × Nat}
    (member : pair ∈ state.pairs) : pair.1 < extensions.length := by
  by_contra beyond
  have kind : extensionAt extensions pair.1 = .throttlePublishStreams := by
    rw [extensionAt, List.getElem?_eq_none (Nat.le_of_not_lt beyond)]
    rfl
  rcases List.mem_append.mp member with member | member
  · have inside := typed.decrement pair member
    rw [kind] at inside
    cases inside
  · have inside := typed.timers pair member
    rw [kind] at inside
    cases inside

/-- A request with a slot or a timer at a level has no answer yet that passed this level. -/
structure Open (flight : Flight Arguments) (state : ExtensionStack Options Arguments)
    (pair : Nat × Nat) : Prop where
  known : pair.2 < state.connections.length
  unanswered : ∀ connection, ∀ answered ∈ state.responses connection, answered.number ≠ pair.2
  held : ∀ connection, ∀ delayed ∈ state.held connection,
    delayed.answered.number = pair.2 → pair.1 < delayed.level
  flight : flight.Beyond pair.1 pair.2

/-- Each answer that was issued is a response, waits, or is in flight. -/
structure Kept (extensions : List PublishExtension) (flight : Flight Arguments)
    (state : ExtensionStack Options Arguments) : Prop where
  typed : state.Typed extensions
  waits : state.Waits
  split : ∀ connection, (state.responses connection ++ flight.flying connection ++
    (state.held connection).map DelayedAnswer.answered).Perm (state.issued connection)
  numbers : ∀ connection, ∀ answered ∈ state.issued connection,
    state.connections[answered.number]? = some answered.connection
  published : ∀ pair ∈ state.published, state.connections[pair.1]? = some pair.2
  nodup : state.decrement.Nodup ∧ state.timers.Nodup
  opened : ∀ pair ∈ state.pairs, state.Open flight pair

/-- The request that sinks has a number but no answer. -/
structure Sinks (extensions : List PublishExtension) (level : Nat)
    (request : PublishRequest PublishStream Options) (state : ExtensionStack Options Arguments) :
    Prop where
  kept : state.Kept extensions (.sinking level request.stream.number)
  known : state.connections[request.stream.number]? = some request.connection
  fresh : ∀ connection, ∀ answered ∈ state.issued connection,
    answered.number ≠ request.stream.number

theorem getElem?_concat {α : Type*} {items : List α} {last item : α} {index : Nat}
    (found : items[index]? = some item) : (items ++ [last])[index]? = some item :=
  (List.getElem?_append_left (List.getElem?_eq_some_iff.mp found).1).trans found

/-- A new listener has a number of its own. -/
theorem Waits.unknown (waits : state.Waits) (connection : Nat) :
    state.delayed.length ∉ (state.drain connection).waiting := by
  intro member
  obtain ⟨_, found, -⟩ := waits.known connection _ member
  exact Nat.lt_irrefl _ (List.getElem?_eq_some_iff.mp found).1

/-- An answer that is delayed waits behind the others of its connection. -/
theorem Waits.held_delays (waits : before.Waits) {delayed : DelayedAnswer Arguments}
    (delays : Delays extensions delayed before after) (connection : Nat) :
    after.held connection = before.held connection ++
      if delayed.answered.connection = connection then [delayed] else [] := by
  have old : (before.drain connection).waiting.filterMap
      ((before.delayed ++ [delayed])[·]?) = before.held connection := by
    refine List.filterMap_congr fun number member => ?_
    obtain ⟨known, found, -⟩ := waits.known connection number member
    exact List.getElem?_append_left (List.getElem?_eq_some_iff.mp found).1
  rw [delays.same]
  change (Function.update before.drain delayed.answered.connection _ connection).waiting.filterMap
    ((before.delayed ++ [delayed])[·]?) = _
  by_cases same : delayed.answered.connection = connection
  · subst same
    rw [Function.update_self, Emitter.once, List.filterMap_append, old]
    simp
  · rw [Function.update_of_ne (Ne.symm same), old]
    simp [same]

/-- A delayed answer keeps the waiting lists in order. -/
theorem Waits.delays (waits : before.Waits) {delayed : DelayedAnswer Arguments}
    (delays : Delays extensions delayed before after) : after.Waits := by
  have old {connection number : Nat} (member : number ∈ (before.drain connection).waiting) :
      ∃ known, (before.delayed ++ [delayed])[number]? = some known ∧
        known.answered.connection = connection := by
    obtain ⟨known, found, here⟩ := waits.known connection number member
    exact ⟨known, getElem?_concat found, here⟩
  rw [delays.same]
  refine ⟨fun connection => ?_, fun connection number member => ?_, fun connection calm => ?_⟩
  all_goals dsimp only at *
  · by_cases here : connection = delayed.answered.connection
    · subst here
      rw [Function.update_self]
      refine List.nodup_append.mpr ⟨waits.nodup _, List.nodup_singleton _, ?_⟩
      rintro number member other single rfl
      exact waits.unknown _ (List.mem_singleton.mp single ▸ member)
    · rw [Function.update_of_ne here]
      exact waits.nodup connection
  · by_cases here : connection = delayed.answered.connection
    · subst here
      rw [Function.update_self] at member
      rcases List.mem_append.mp member with member | member
      · exact old member
      · obtain rfl := List.mem_singleton.mp member
        exact ⟨delayed, List.getElem?_concat_length, rfl⟩
    · rw [Function.update_of_ne here] at member
      exact old member
  · have other : connection ≠ delayed.answered.connection := by
      rintro rfl
      rw [delays.backs] at calm
      cases calm
    rw [Function.update_of_ne other]
    exact waits.covered connection calm

/-- A response answers a request that was issued. -/
theorem Kept.responses_issued {flight : Flight Arguments} (kept : state.Kept extensions flight)
    {connection : Nat} (member : answered ∈ state.responses connection) :
    answered ∈ state.issued connection :=
  (kept.split connection).subset (List.mem_append_left _ (List.mem_append_left _ member))

/-- An answer that is held was issued. -/
theorem Kept.held_issued {flight : Flight Arguments} (kept : state.Kept extensions flight)
    {connection : Nat} {delayed : DelayedAnswer Arguments}
    (member : delayed ∈ state.held connection) : delayed.answered ∈ state.issued connection :=
  (kept.split connection).subset (List.mem_append_right _ (List.mem_map_of_mem member))

/-- A pair stays open while no answer for its request comes to its level. -/
theorem Open.mono {flight later : Flight Arguments} {pair : Nat × Nat}
    (opened : before.Open flight pair)
    (requests : before.connections.length ≤ after.connections.length)
    (responses : ∀ connection, ∀ answered ∈ after.responses connection,
      answered ∈ before.responses connection ∨ answered.number ≠ pair.2)
    (held : ∀ connection, ∀ delayed ∈ after.held connection,
      delayed ∈ before.held connection ∨
        (delayed.answered.number = pair.2 → pair.1 < delayed.level))
    (moved : later.Beyond pair.1 pair.2) : after.Open later pair where
  known := Nat.lt_of_lt_of_le opened.known requests
  unanswered connection answered member :=
    (responses connection answered member).elim (opened.unanswered connection answered) id
  held connection delayed member :=
    (held connection delayed member).elim (opened.held connection delayed) id
  flight := moved

/-- The drains and the answers are as they were. -/
structure Still (before after : ExtensionStack Options Arguments) : Prop where
  requests : after.requests = before.requests
  published : after.published = before.published
  boProp : after.boProp = before.boProp
  drain : after.drain = before.drain
  delayed : after.delayed = before.delayed

/-- Quiet changes leave the connections. -/
theorem Still.connections (still : Still before after) :
    after.connections = before.connections := by
  unfold ExtensionStack.connections
  rw [still.requests]

/-- Quiet changes leave the answers that are held. -/
theorem Still.held (still : Still before after) (connection : Nat) :
    after.held connection = before.held connection := by
  unfold ExtensionStack.held
  rw [still.drain, still.delayed]

/-- Quiet changes keep the waiting lists in order. -/
theorem Still.waits (still : Still before after) (waits : before.Waits) : after.Waits := by
  refine ⟨?_, ?_, ?_⟩
  · rw [still.drain]
    exact waits.nodup
  · rw [still.drain, still.delayed]
    exact waits.known
  · rw [still.boProp, still.drain]
    exact waits.covered

/-- A call that is no answer leaves the answers as they are. -/
theorem answers_call (made : StackCall Options Arguments)
    (silent : ∀ connection, made.issued connection = none ∧ made.response connection = none)
    (grown : after.calls = before.calls ++ [made]) (connection : Nat) :
    after.responses connection = before.responses connection ∧
      after.issued connection = before.issued connection := by
  simp [ExtensionStack.responses, ExtensionStack.issued, grown, silent connection]

/-- A callback passes its answer on. -/
theorem Kept.released (kept : before.Kept extensions (.rising (level + 1) answered))
    (released : Released level answered before after) :
    after.Kept extensions (.rising level answered) := by
  have same := released.same
  have still : Still before after := by rw [same]; constructor <;> rfl
  have answers := answers_call (.callback level answered) (fun _ => ⟨rfl, rfl⟩)
    (by rw [same] : after.calls = before.calls ++ [.callback level answered])
  have responses := fun connection => (answers connection).1
  have issued := fun connection => (answers connection).2
  refine ⟨⟨?_, ?_⟩, still.waits kept.waits, ?_, ?_, ?_, ?_, ?_⟩
  · rw [same]
    exact fun pair member => kept.typed.decrement pair (List.mem_of_mem_erase member)
  · rw [same]
    exact fun pair member => kept.typed.timers pair (List.mem_of_mem_erase member)
  · intro connection
    rw [responses, issued, still.held]
    exact kept.split connection
  · intro connection
    rw [issued, still.connections]
    exact kept.numbers connection
  · rw [still.connections, still.published]
    exact kept.published
  · rw [same]
    exact ⟨kept.nodup.1.erase _, kept.nodup.2.erase _⟩
  · intro pair member
    have left : pair ∈ before.pairs ∧ pair ≠ (level, answered.number) := by
      rw [pairs, same] at member
      rcases List.mem_append.mp member with member | member
      · have both := (kept.nodup.1.mem_erase_iff).mp member
        exact ⟨List.mem_append_left _ both.2, both.1⟩
      · have both := (kept.nodup.2.mem_erase_iff).mp member
        exact ⟨List.mem_append_right _ both.2, both.1⟩
    have opened := kept.opened pair left.1
    refine opened.mono (still.connections ▸ le_rfl) ?_ ?_ fun number => ?_
    · exact fun connection answered member => Or.inl (responses connection ▸ member)
    · exact fun connection delayed member => Or.inl (still.held connection ▸ member)
    · have below : pair.1 < level + 1 := opened.flight number
      have apart : pair.1 ≠ level := fun equal => left.2 (Prod.ext equal number.symm)
      omega

/-- A callback keeps its answer until `drain`. -/
theorem Kept.delays (kept : before.Kept extensions (.rising (level + 1) answered))
    (delays : Delays extensions { level, answered } before after) :
    after.Kept extensions .settled := by
  have same := delays.same
  have held := kept.waits.held_delays delays
  have answers := answers_call (.callback level answered) (fun _ => ⟨rfl, rfl⟩)
    (by rw [same] : after.calls = before.calls ++ [.callback level answered])
  have responses := fun connection => (answers connection).1
  have issued := fun connection => (answers connection).2
  have requests : after.connections = before.connections := by rw [same]; rfl
  have typed : after.Typed extensions := by
    rw [same]
    exact ⟨kept.typed.decrement, kept.typed.timers⟩
  refine ⟨typed, kept.waits.delays delays, ?_, ?_, ?_, ?_, ?_⟩
  · intro connection
    rw [responses, issued, held, List.map_append, ← List.append_assoc]
    have split := kept.split connection
    simp only [Flight.flying_rising, Flight.flying_settled, StackAnswer.onConnection] at split ⊢
    split
    · next here =>
        rw [if_pos here] at split
        refine List.Perm.trans ?_ split
        simp only [Option.toList_some, List.append_nil, List.map_singleton, List.append_assoc]
        exact List.perm_append_comm.append_left _
    · next there =>
        rw [if_neg there] at split
        simpa using split
  · intro connection
    rw [issued, requests]
    exact kept.numbers connection
  · rw [same]
    exact kept.published
  · rw [same]
    exact kept.nodup
  · intro pair member
    have opened := kept.opened pair (by rw [pairs, same] at member; exact member)
    refine opened.mono (requests ▸ le_rfl) ?_ ?_ trivial
    · exact fun connection answered member => Or.inl (responses connection ▸ member)
    · intro connection delayed inside
      rw [held] at inside
      refine (List.mem_append.mp inside).imp_right fun new number => ?_
      split at new
      · obtain rfl := List.mem_singleton.mp new
        have below : pair.1 < level + 1 := opened.flight number
        have apart : pair.1 ≠ level := fun equal => typed.not_backoff member (equal ▸ delays.kind)
        dsimp only
        omega
      · cases new

/-- The callback of a request gets the answer. -/
theorem Kept.cb (kept : state.Kept extensions (.rising 0 answered)) :
    (state.cb answered).Kept extensions .settled := by
  have responses (connection : Nat) : (state.cb answered).responses connection =
      state.responses connection ++ (answered.onConnection connection).toList := by
    simp [ExtensionStack.responses, ExtensionStack.cb, call, StackCall.response,
      List.filterMap_cons]
    cases answered.onConnection connection <;> rfl
  have issued (connection : Nat) :
      (state.cb answered).issued connection = state.issued connection := by
    simp [ExtensionStack.issued, ExtensionStack.cb, call, StackCall.issued]
  refine ⟨⟨kept.typed.decrement, kept.typed.timers⟩, ⟨kept.waits.nodup, kept.waits.known,
    kept.waits.covered⟩, ?_, ?_, kept.published, kept.nodup, ?_⟩
  · intro connection
    rw [responses, issued, Flight.flying_settled, List.append_nil]
    exact kept.split connection
  · intro connection
    rw [issued]
    exact kept.numbers connection
  · intro pair member
    have opened := kept.opened pair member
    refine opened.mono le_rfl (fun connection other inside => ?_) (fun _ _ => Or.inl) trivial
    rw [responses] at inside
    refine (List.mem_append.mp inside).imp_right fun new number => ?_
    unfold StackAnswer.onConnection at new
    split at new
    · obtain rfl := List.mem_singleton.mp new
      exact Nat.not_lt_zero _ (opened.flight number)
    · cases new

/-- A handler refuses a request, and its answer rises. -/
theorem Sinks.refused (sinks : before.Sinks extensions level request)
    (refused : Refused (extensionAt extensions level) level request answered before after) :
    after.Kept extensions (.rising level answered) := by
  have kept := sinks.kept
  have same := refused.same
  have still : Still before after := by rw [same]; constructor <;> rfl
  have responses (connection : Nat) : after.responses connection = before.responses connection := by
    rw [same]
    simp [ExtensionStack.responses, StackCall.response]
  have issued (connection : Nat) : after.issued connection =
      before.issued connection ++ (answered.onConnection connection).toList := by
    rw [same]
    simp [ExtensionStack.issued, StackCall.issued, List.filterMap_cons]
    cases answered.onConnection connection <;> rfl
  have pairs : after.pairs = before.pairs := by rw [same]; rfl
  refine ⟨?_, still.waits kept.waits, ?_, ?_, ?_, ?_, ?_⟩
  · rw [same]
    exact ⟨kept.typed.decrement, kept.typed.timers⟩
  · intro connection
    rw [responses, issued, still.held]
    have split := (kept.split connection).append_right (answered.onConnection connection).toList
    rw [Flight.flying_sinking, List.append_nil, List.append_assoc] at split
    rw [Flight.flying_rising, List.append_assoc]
    exact (List.perm_append_comm.append_left _).trans split
  · intro connection other inside
    rw [still.connections]
    rw [issued] at inside
    rcases List.mem_append.mp inside with old | new
    · exact kept.numbers connection other old
    · unfold StackAnswer.onConnection at new
      split at new
      · obtain rfl := List.mem_singleton.mp new
        rw [refused.number, refused.connection]
        exact sinks.known
      · cases new
  · rw [still.connections, still.published]
    exact kept.published
  · rw [same]
    exact kept.nodup
  · intro pair member
    have opened := kept.opened pair (pairs ▸ member)
    refine opened.mono (still.connections ▸ le_rfl) ?_ ?_ fun number => ?_
    · exact fun connection answered member => Or.inl (responses connection ▸ member)
    · exact fun connection delayed member => Or.inl (still.held connection ▸ member)
    · exact opened.flight (refused.number ▸ number)

/-- A handler that passes a request on has new pairs for it at most. -/
theorem pair_eq {extension : PublishExtension} {level number : Nat}
    {pair : Nat × Nat} (member : pair ∈ extension.acquired level number ∨
      pair ∈ extension.started level number) : pair = (level, number) := by
  cases extension <;> simp_all [PublishExtension.acquired, PublishExtension.started]

/-- A handler passes a request on. -/
theorem Sinks.passed (sinks : before.Sinks extensions level request)
    (passes : Onward (extensionAt extensions level) level request onward before after) :
    after.Sinks extensions (level + 1) onward := by
  have kept := sinks.kept
  have same := passes.same
  have still : Still before after := by rw [same]; constructor <;> rfl
  have answers := answers_call (.next level request) (fun _ => ⟨rfl, rfl⟩)
    (by rw [same] : after.calls = before.calls ++ [.next level request])
  have fresh : (level, request.stream.number) ∉ before.pairs := fun member =>
    Nat.lt_irrefl _ ((kept.opened _ member).flight rfl)
  have grown : ∀ pair ∈ after.pairs,
      pair ∈ before.pairs ∨ pair = (level, request.stream.number) := by
    intro pair member
    rw [pairs, same] at member
    rcases List.mem_append.mp member with member | member
    · exact (List.mem_append.mp member).imp (List.mem_append_left _)
        fun new => pair_eq (Or.inl new)
    · exact (List.mem_append.mp member).imp (List.mem_append_right _)
        fun new => pair_eq (Or.inr new)
  refine ⟨⟨⟨?_, ?_⟩, still.waits kept.waits, ?_, ?_, ?_, ⟨?_, ?_⟩, ?_⟩, ?_, ?_⟩
  · intro pair member
    rw [same] at member
    rcases List.mem_append.mp member with old | new
    · exact kept.typed.decrement pair old
    · obtain rfl := pair_eq (Or.inl new)
      exact new
  · intro pair member
    rw [same] at member
    rcases List.mem_append.mp member with old | new
    · exact kept.typed.timers pair old
    · obtain rfl := pair_eq (Or.inr new)
      exact new
  · intro connection
    rw [(answers connection).1, (answers connection).2, still.held]
    exact kept.split connection
  · intro connection
    rw [(answers connection).2, still.connections]
    exact kept.numbers connection
  · rw [still.connections, still.published]
    exact kept.published
  · rw [same]
    refine List.nodup_append.mpr ⟨kept.nodup.1, ?_, ?_⟩
    · cases extensionAt extensions level <;> simp [PublishExtension.acquired]
    · rintro pair old other new rfl
      obtain rfl := pair_eq (Or.inl new)
      exact fresh (List.mem_append_left _ old)
  · rw [same]
    refine List.nodup_append.mpr ⟨kept.nodup.2, ?_, ?_⟩
    · cases extensionAt extensions level <;> simp [PublishExtension.started]
    · rintro pair old other new rfl
      obtain rfl := pair_eq (Or.inr new)
      exact fresh (List.mem_append_right _ old)
  · intro pair member
    rcases grown pair member with old | rfl
    · have opened := kept.opened pair old
      refine opened.mono (still.connections ▸ le_rfl) ?_ ?_ fun number => ?_
      · exact fun connection answered member => Or.inl ((answers connection).1 ▸ member)
      · exact fun connection delayed member => Or.inl (still.held connection ▸ member)
      · exact Nat.lt_succ_of_lt (opened.flight (by rwa [passes.wrapped] at number))
    · have known := (List.getElem?_eq_some_iff.mp sinks.known).1
      refine ⟨still.connections ▸ known, fun connection other inside => ?_,
        fun connection delayed inside number => ?_, fun _ => Nat.lt_succ_self _⟩
      · rw [(answers connection).1] at inside
        exact sinks.fresh connection other (kept.responses_issued inside)
      · rw [still.held] at inside
        exact absurd number (sinks.fresh connection _ (kept.held_issued inside))
  · rw [passes.wrapped, still.connections]
    exact sinks.known
  · intro connection
    rw [(answers connection).2, passes.wrapped]
    exact sinks.fresh connection

/-- The default handler gets a request and holds its callback. -/
theorem Sinks.published (sinks : state.Sinks extensions level request) :
    (state.defaultHandler request).Kept extensions .settled := by
  have kept := sinks.kept
  have answers := @answers_call _ _ state (state.defaultHandler request) (.publish request)
    (fun _ => ⟨rfl, rfl⟩) rfl
  refine ⟨⟨kept.typed.decrement, kept.typed.timers⟩, ⟨kept.waits.nodup, kept.waits.known,
    kept.waits.covered⟩, ?_, ?_, ?_, kept.nodup, ?_⟩
  · intro connection
    rw [(answers connection).1, (answers connection).2]
    exact kept.split connection
  · intro connection
    rw [(answers connection).2]
    exact kept.numbers connection
  · intro pair member
    rcases List.mem_append.mp member with old | new
    · exact kept.published pair old
    · obtain rfl := List.mem_singleton.mp new
      exact sinks.known
  · intro pair member
    exact (kept.opened pair member).mono le_rfl
      (fun connection other inside => Or.inl ((answers connection).1 ▸ inside)) (fun _ _ => Or.inl)
      trivial

/-- The connection may be destroyed after a refusal. -/
theorem Kept.afterRefusal (kept : state.Kept extensions .settled)
    (request : PublishRequest PublishStream Options) (extension : PublishExtension) :
    (state.afterRefusal request extension).Kept extensions .settled := by
  unfold ExtensionStack.afterRefusal
  split
  · have answers := @answers_call _ _ state (state.call (.destroy request.connection))
      (.destroy request.connection) (fun _ => ⟨rfl, rfl⟩) rfl
    refine ⟨⟨kept.typed.decrement, kept.typed.timers⟩, ⟨kept.waits.nodup, kept.waits.known,
      kept.waits.covered⟩, ?_, ?_, kept.published, kept.nodup, ?_⟩
    · intro connection
      rw [(answers connection).1, (answers connection).2]
      exact kept.split connection
    · intro connection
      rw [(answers connection).2]
      exact kept.numbers connection
    · intro pair member
      exact (kept.opened pair member).mono le_rfl
        (fun connection other inside => Or.inl ((answers connection).1 ▸ inside))
        (fun _ _ => Or.inl) trivial
  · exact kept

/-- A new request has a new number. -/
theorem Kept.sinks (kept : state.Kept extensions .settled)
    (number : request.stream.number = state.requests.length) :
    { state with requests := state.requests ++ [request] }.Sinks extensions 0 request := by
  have connections : (state.requests ++ [request]).map PublishRequest.connection =
      state.connections ++ [request.connection] := List.map_append
  have last : request.stream.number = state.connections.length := by
    rw [number, ExtensionStack.connections, List.length_map]
  refine ⟨⟨⟨kept.typed.decrement, kept.typed.timers⟩, ⟨kept.waits.nodup, kept.waits.known,
    kept.waits.covered⟩, kept.split, ?_, ?_, kept.nodup, ?_⟩, ?_, ?_⟩
  · intro other answered member
    unfold ExtensionStack.connections
    rw [connections]
    exact getElem?_concat (kept.numbers other answered member)
  · intro pair member
    unfold ExtensionStack.connections
    rw [connections]
    exact getElem?_concat (kept.published pair member)
  · intro pair member
    have opened := kept.opened pair member
    refine opened.mono ?_ (fun _ _ => Or.inl) (fun _ _ => Or.inl) fun same => ?_
    · unfold ExtensionStack.connections
      rw [connections, List.length_append]
      exact Nat.le_add_right _ _
    · exact absurd (last.symm.trans same) (Nat.ne_of_gt opened.known)
  · unfold ExtensionStack.connections
    rw [connections, last]
    exact List.getElem?_concat_length
  · intro other answered member
    rw [last]
    exact Nat.ne_of_lt (List.getElem?_eq_some_iff.mp (kept.numbers other answered member)).1

/-- The default handler calls a callback that it holds. -/
theorem Kept.completed (kept : state.Kept extensions .settled)
    (known : state.connections[answered.number]? = some answered.connection) :
    (state.call (.completed answered)).Kept extensions (.rising extensions.length answered) := by
  have responses (connection : Nat) : (state.call (.completed answered)).responses connection =
      state.responses connection := by
    simp [ExtensionStack.responses, call, StackCall.response]
  have issued (connection : Nat) : (state.call (.completed answered)).issued connection =
      state.issued connection ++ (answered.onConnection connection).toList := by
    simp [ExtensionStack.issued, call, StackCall.issued, List.filterMap_cons]
    cases answered.onConnection connection <;> rfl
  refine ⟨⟨kept.typed.decrement, kept.typed.timers⟩, ⟨kept.waits.nodup, kept.waits.known,
    kept.waits.covered⟩, ?_, ?_, kept.published, kept.nodup, ?_⟩
  · intro connection
    rw [responses, issued]
    have split := (kept.split connection).append_right (answered.onConnection connection).toList
    rw [Flight.flying_settled, List.append_nil, List.append_assoc] at split
    rw [Flight.flying_rising, List.append_assoc]
    exact (List.perm_append_comm.append_left _).trans split
  · intro connection other inside
    rw [issued] at inside
    rcases List.mem_append.mp inside with old | new
    · exact kept.numbers connection other old
    · unfold StackAnswer.onConnection at new
      split at new
      · obtain rfl := List.mem_singleton.mp new
        exact known
      · cases new
  · intro pair member
    have opened := kept.opened pair member
    refine opened.mono le_rfl
      (fun connection other inside => Or.inl (responses connection ▸ inside))
      (fun _ _ => Or.inl) fun _ => kept.typed.within member

/-- An emission of `drain` on this connection goes on. -/
def resumed (state : ExtensionStack Options Arguments) (connection : Nat) (emitter : Emitter Nat) :
    ExtensionStack Options Arguments :=
  { state with drain := Function.update state.drain connection emitter }

/-- Another connection is in the backoff state as before. -/
def Elsewhere (connection : Nat) (before after : Nat → Bool) : Prop :=
  ∀ other, other ≠ connection → after other = before other

@[simp] theorem drain_resumed (connection : Nat) (emitter : Emitter Nat) :
    (state.resumed connection emitter).drain connection = emitter := Function.update_self ..

theorem drain_resumed_of_ne {connection other : Nat} (different : other ≠ connection)
    (emitter : Emitter Nat) : (state.resumed connection emitter).drain other = state.drain other :=
  Function.update_of_ne different ..

theorem held_resumed_of_ne {connection other : Nat} (different : other ≠ connection)
    (emitter : Emitter Nat) : (state.resumed connection emitter).held other = state.held other := by
  unfold held
  rw [drain_resumed_of_ne different]
  rfl

/-- An answer that is released leaves the waiting list of its connection only. -/
theorem Waits.resumed (waits : state.Waits) {connection : Nat} {emitter : Emitter Nat}
    {boProp : Nat → Bool} (elsewhere : Elsewhere connection state.boProp boProp)
    (fewer : emitter.waiting.Sublist (state.drain connection).waiting)
    (covered : boProp connection = false → emitter.Covered) :
    ({ state with boProp }.resumed connection emitter).Waits := by
  refine ⟨fun other => ?_, fun other number member => ?_, fun other calm => ?_⟩
  all_goals by_cases same : other = connection
  · subst same
    rw [drain_resumed]
    exact fewer.nodup (waits.nodup other)
  · rw [drain_resumed_of_ne same]
    exact waits.nodup other
  · subst same
    rw [drain_resumed] at member
    exact waits.known other number (fewer.subset member)
  · rw [drain_resumed_of_ne same] at member
    exact waits.known other number member
  · subst same
    rw [drain_resumed]
    exact covered calm
  · rw [drain_resumed_of_ne same]
    exact waits.covered other (elsewhere other same ▸ calm)

/-- An emission of `drain` calls no listener. -/
theorem Kept.ended (kept : state.Kept extensions .settled) {emitter : Emitter Nat}
    {boProp : Nat → Bool} (elsewhere : Elsewhere connection state.boProp boProp)
    (waiting : emitter.waiting = (state.drain connection).waiting)
    (covered : boProp connection = false → emitter.Covered) :
    ({ state with boProp }.resumed connection emitter).Kept extensions .settled := by
  have held (other : Nat) :
      ({ state with boProp }.resumed connection emitter).held other = state.held other := by
    by_cases same : other = connection
    · subst same
      rw [ExtensionStack.held, drain_resumed, waiting]
      rfl
    · exact held_resumed_of_ne same emitter
  refine ⟨⟨kept.typed.decrement, kept.typed.timers⟩,
    kept.waits.resumed elsewhere (waiting ▸ List.Sublist.refl _) covered,
    fun other => (held other).symm ▸ kept.split other, kept.numbers, kept.published, kept.nodup,
    fun pair member => ?_⟩
  exact (kept.opened pair member).mono le_rfl (fun _ _ => Or.inl)
    (fun other delayed inside => Or.inl (held other ▸ inside)) trivial

/-- An emission of `drain` calls a listener, whose answer rises. -/
theorem Kept.released_by (kept : state.Kept extensions .settled) {left : Emitter Nat}
    {boProp : Nat → Bool} (elsewhere : Elsewhere connection state.boProp boProp)
    {delayed : DelayedAnswer Arguments} (here : delayed.answered.connection = connection)
    (fewer : left.waiting.Sublist (state.drain connection).waiting)
    (moved : (state.held connection).Perm
      (delayed :: ({ state with boProp }.resumed connection left).held connection))
    (covered : boProp connection = false → left.Covered) :
    ({ state with boProp }.resumed connection left).Kept extensions
      (.rising delayed.level delayed.answered) := by
  refine ⟨⟨kept.typed.decrement, kept.typed.timers⟩, kept.waits.resumed elsewhere fewer covered,
    fun other => ?_, kept.numbers, kept.published, kept.nodup, fun pair member => ?_⟩
  · refine List.Perm.trans ?_ (kept.split other)
    by_cases same : other = connection
    · subst same
      have mapped := (moved.map DelayedAnswer.answered).symm
      simp only [Flight.flying_rising, StackAnswer.onConnection, here, if_true,
        Option.toList_some, Flight.flying_settled, List.append_nil, List.append_assoc]
      exact mapped.append_left _
    · rw [held_resumed_of_ne same]
      simp [StackAnswer.onConnection, here, Ne.symm same]
      rfl
  · have opened := kept.opened pair member
    refine opened.mono le_rfl (fun _ _ => Or.inl) (fun other delayed inside => Or.inl ?_) ?_
    · by_cases same : other = connection
      · subst same
        exact moved.symm.subset (List.mem_cons_of_mem _ inside)
      · rwa [held_resumed_of_ne same] at inside
    · exact opened.held connection delayed (moved.symm.subset List.mem_cons_self)

/-- An emission of `drain` ends, or the answer of the listener that it calls rises. -/
theorem Kept.release_cases (kept : state.Kept extensions .settled) {emitter : Emitter Nat}
    {listeners : List Nat} {boProp : Nat → Bool}
    (elsewhere : Elsewhere connection state.boProp boProp)
    (waiting : emitter.waiting = (state.drain connection).waiting)
    (covered : boProp connection = false → (emitter.advance listeners).2.Covered) :
    let resumed := { state with boProp }.resumed connection (emitter.advance listeners).2
    let released := { state with boProp }.release extensions connection (emitter.advance listeners)
    (released = resumed ∧ resumed.Kept extensions .settled) ∨
      ∃ delayed : DelayedAnswer Arguments,
        released = resumed.answer extensions delayed.level delayed.answered ∧
          resumed.Kept extensions (.rising delayed.level delayed.answered) := by
  dsimp only
  cases advanced : emitter.advance listeners with
  | mk called left =>
      rw [advanced] at covered
      cases called with
      | none =>
          obtain ⟨rfl, -⟩ := Emitter.advance_eq_none advanced
          exact Or.inl ⟨rfl, kept.ended elsewhere waiting covered⟩
      | some number =>
          obtain ⟨_, _, -, -, waits, shape⟩ := Emitter.advance_eq_some advanced
          have fewer : left.waiting.Sublist (state.drain connection).waiting := by
            rw [shape, ← waiting]
            exact List.erase_sublist
          obtain ⟨delayed, found, here⟩ := kept.waits.known connection number (waiting ▸ waits)
          have moved : (state.held connection).Perm
              (delayed :: ({ state with boProp }.resumed connection left).held connection) := by
            have perm := (Emitter.advance_perm advanced).filterMap (state.delayed[·]?)
            rw [List.filterMap_cons_some found, waiting] at perm
            rwa [ExtensionStack.held, ExtensionStack.held, drain_resumed]
          refine Or.inr ⟨delayed, ?_, kept.released_by elsewhere here fewer moved covered⟩
          unfold ExtensionStack.release
          dsimp only
          rw [Option.bind_some, found]
          rfl

/-- A timer may go without being cleared. -/
theorem Kept.timeout (kept : state.Kept extensions .settled) (timer level number : Nat) :
    ({ state with timers := state.timers.eraseIdx timer }.call (.timeout level number)).Kept
      extensions .settled := by
  have fewer := List.eraseIdx_sublist (l := state.timers) timer
  have answers := @answers_call _ _ state
    ({ state with timers := state.timers.eraseIdx timer }.call (.timeout level number))
    (.timeout level number) (fun _ => ⟨rfl, rfl⟩) rfl
  refine ⟨⟨kept.typed.decrement, fun pair member => kept.typed.timers pair (fewer.subset member)⟩,
    ⟨kept.waits.nodup, kept.waits.known, kept.waits.covered⟩, fun connection => ?_,
    fun connection => ?_, kept.published, ⟨kept.nodup.1, fewer.nodup kept.nodup.2⟩,
    fun pair member => ?_⟩
  · rw [(answers connection).1, (answers connection).2]
    exact kept.split connection
  · rw [(answers connection).2]
    exact kept.numbers connection
  · have inside : pair ∈ state.pairs :=
      List.mem_append.mpr ((List.mem_append.mp member).imp id fun left => fewer.subset left)
    exact (kept.opened pair inside).mono le_rfl
      (fun connection other inside => Or.inl ((answers connection).1 ▸ inside))
      (fun _ _ => Or.inl) trivial

/-- At first nothing is kept. -/
theorem kept_initial (extensions : List PublishExtension) :
    ({} : ExtensionStack Options Arguments).Kept extensions .settled where
  typed := ⟨fun _ => List.not_mem_nil.elim, fun _ => List.not_mem_nil.elim⟩
  waits := ⟨fun _ => List.nodup_nil, fun _ _ => List.not_mem_nil.elim, fun _ _ => Or.inl rfl⟩
  split _ := List.Perm.refl _
  numbers _ _ := List.not_mem_nil.elim
  published _ := List.not_mem_nil.elim
  nodup := ⟨List.nodup_nil, List.nodup_nil⟩
  opened _ := List.not_mem_nil.elim

/-- The event `backoff` holds back later answers only. -/
theorem Kept.backoff (kept : state.Kept extensions .settled) (connection : Nat) :
    { state with boProp := Function.update state.boProp connection true }.Kept extensions
      .settled := by
  refine ⟨⟨kept.typed.decrement, kept.typed.timers⟩, ⟨kept.waits.nodup, kept.waits.known, ?_⟩,
    kept.split, kept.numbers, kept.published, kept.nodup, fun pair member => ?_⟩
  · intro other calm
    by_cases same : other = connection
    · simp [same] at calm
    · exact kept.waits.covered other (by simpa [same] using calm)
  · exact (kept.opened pair member).mono le_rfl (fun _ _ => Or.inl) (fun _ _ => Or.inl) trivial

end ExtensionStack
end Centro
