import Centro.Proof.ExtensionStack.Steps

namespace Centro

open Library

variable {Options Arguments : Type*}

namespace StackCall

/-- A handler passes this request on or refuses it, or the default handler gets it. -/
def onWay (number : Nat) : StackCall Options Arguments → Bool
  | next _ request => request.stream.number == number
  | refused _ _ answered => answered.number == number
  | publish request => request.stream.number == number
  | _ => false

/-- The default handler holds the callback of a request. -/
def holds : StackCall Options Arguments → Option (Nat × Nat)
  | publish request => some (request.stream.number, request.connection)
  | _ => none

/-- The default handler called the callback of a request. -/
def completion : StackCall Options Arguments → Option (Nat × Nat)
  | completed answered => some (answered.number, answered.connection)
  | _ => none

end StackCall

namespace ExtensionStack

variable {extensions : List PublishExtension} {level number : Nat}
  {state next before after : ExtensionStack Options Arguments} {answered : StackAnswer Arguments}
  {request onward original : PublishRequest PublishStream Options}

def way (state : ExtensionStack Options Arguments) (number : Nat) :
    List (StackCall Options Arguments) :=
  state.calls.filter (StackCall.onWay number)

/-- The handlers before this level piped the stream of a request through their transforms. -/
def reached (extensions : List PublishExtension)
    (original : PublishRequest PublishStream Options) (level : Nat) :
    PublishRequest PublishStream Options :=
  { original with
    stream.transforms :=
      (List.range level).filter fun level => (extensionAt extensions level).wraps }

/-- The first handlers pass a request on in the order in which the extensions were attached. -/
def arrivals (extensions : List PublishExtension)
    (original : PublishRequest PublishStream Options) (count : Nat) :
    List (StackCall Options Arguments) :=
  (List.range count).map fun level => .next level (reached extensions original level)

/-- A handler refuses a request, and the later handlers do not get it. Otherwise all of them pass it
on and the default handler gets it. -/
inductive Went (extensions : List PublishExtension)
    (original : PublishRequest PublishStream Options) : List (StackCall Options Arguments) → Prop
  | refused (level : Nat) (message : JsString) (within : level < extensions.length) :
      Went extensions original (arrivals extensions original level ++
        [.refused level (reached extensions original level)
          { number := original.stream.number
            connection := original.connection
            answer := .error message }])
  | published : Went extensions original (arrivals extensions original extensions.length ++
      [.publish (reached extensions original extensions.length)])

/-- Every request went its way. -/
structure Routed (extensions : List PublishExtension) (state : ExtensionStack Options Arguments)
    (finished : Nat) : Prop where
  went : ∀ number original, number < finished → state.requests[number]? = some original →
    Went extensions original (state.way number)
  ahead : ∀ number, state.requests.length ≤ number → state.way number = []
  numbers : ∀ (number : Nat) (original : PublishRequest PublishStream Options),
    state.requests[number]? = some original → original.stream = { number }
  published : state.published = state.calls.filterMap StackCall.holds
  completed : ∀ pair ∈ state.calls.filterMap StackCall.completion, pair ∈ state.published

/-- The last request sinks to a level. -/
structure Sinking (extensions : List PublishExtension) (level : Nat)
    (request : PublishRequest PublishStream Options) (state : ExtensionStack Options Arguments) :
    Prop where
  routed : state.Routed extensions request.stream.number
  last : state.requests.length = request.stream.number + 1
  original : ∃ original, state.requests[request.stream.number]? = some original ∧
    request = reached extensions original level ∧
    state.way request.stream.number = arrivals extensions original level

theorem reached_succ (extensions : List PublishExtension)
    (original : PublishRequest PublishStream Options) (level : Nat) :
    reached extensions original (level + 1) =
      (extensionAt extensions level).wrap level (reached extensions original level) := by
  unfold reached PublishExtension.wrap
  rw [List.range_succ, List.filter_append]
  congr 2
  cases kind : (extensionAt extensions level).wraps <;> simp [kind]

theorem arrivals_succ (extensions : List PublishExtension)
    (original : PublishRequest PublishStream Options) (level : Nat) :
    arrivals extensions original (level + 1) =
      (arrivals extensions original level : List (StackCall Options Arguments)) ++
        [.next level (reached extensions original level)] := by
  unfold arrivals
  rw [List.range_succ, List.map_append, List.map_singleton]

/-- The requests and the callbacks of the default handler are as they were. -/
structure Unmoved (before after : ExtensionStack Options Arguments) : Prop where
  requests : after.requests = before.requests
  published : after.published = before.published

/-- A call on no way leaves the ways as they are. -/
theorem Routed.call {finished : Nat} (routed : before.Routed extensions finished)
    (unmoved : Unmoved before after) (ways : ∀ number, after.way number = before.way number)
    (holds : after.calls.filterMap StackCall.holds = before.calls.filterMap StackCall.holds)
    (completed : ∀ pair ∈ after.calls.filterMap StackCall.completion,
      pair ∈ before.calls.filterMap StackCall.completion ∨ pair ∈ before.published) :
    after.Routed extensions finished where
  went number original inside found := by
    rw [ways]
    exact routed.went number original inside (unmoved.requests ▸ found)
  ahead number beyond := by
    rw [ways]
    exact routed.ahead number (unmoved.requests ▸ beyond)
  numbers := by
    rw [unmoved.requests]
    exact routed.numbers
  published := by
    rw [unmoved.published, holds]
    exact routed.published
  completed pair member := by
    rw [unmoved.published]
    exact (completed pair member).elim (routed.completed pair) id

/-- Every request went its way, and none sinks. -/
def Settled (extensions : List PublishExtension) (state : ExtensionStack Options Arguments) :
    Prop :=
  state.Routed extensions state.requests.length

/-- A call off the way of every request changes nothing about it. -/
theorem Settled.call (settled : before.Settled extensions) (made : StackCall Options Arguments)
    (unmoved : Unmoved before after) (silent : ∀ number, made.onWay number = false)
    (holds : made.holds = none) (completed : ∀ pair ∈ made.completion, pair ∈ before.published)
    (grown : after.calls = before.calls ++ [made]) : after.Settled extensions := by
  unfold Settled
  rw [unmoved.requests]
  refine Routed.call settled unmoved (fun number => ?_) ?_ fun pair member => ?_
  · rw [way, way, grown, List.filter_append, List.filter_singleton, silent number]
    exact List.append_nil _
  · rw [grown, List.filterMap_append, List.filterMap_cons_none holds]
    exact List.append_nil _
  · rw [grown, List.filterMap_append] at member
    refine (List.mem_append.mp member).imp_right fun new => completed pair ?_
    cases given : made.completion <;> simp_all

theorem Settled.same (settled : before.Settled extensions) (unmoved : Unmoved before after)
    (calls : after.calls = before.calls) : after.Settled extensions := by
  unfold Settled
  rw [unmoved.requests]
  refine Routed.call settled unmoved (fun number => ?_) (by rw [calls]) fun pair member => ?_
  · rw [way, way, calls]
  · exact Or.inl (calls ▸ member)

/-- The last request is finished now. -/
theorem Sinking.settled (sinking : before.Sinking extensions level request)
    (requests : after.requests = before.requests)
    (others : ∀ number, number ≠ request.stream.number → after.way number = before.way number)
    (went : ∀ original, before.requests[request.stream.number]? = some original →
      request = reached extensions original level →
      before.way request.stream.number = arrivals extensions original level →
      Went extensions original (after.way request.stream.number))
    (published : after.published = after.calls.filterMap StackCall.holds)
    (completed : ∀ pair ∈ after.calls.filterMap StackCall.completion, pair ∈ after.published) :
    after.Settled extensions := by
  obtain ⟨original, found, same, arrived⟩ := sinking.original
  have last := sinking.last
  refine ⟨fun number other within inside => ?_, fun number beyond => ?_, ?_, published, completed⟩
  · rw [requests] at within inside
    by_cases here : number = request.stream.number
    · subst here
      obtain rfl := Option.some.inj (found.symm.trans inside)
      exact went original found same arrived
    · rw [others number here]
      exact sinking.routed.went number other (by omega) inside
  · rw [requests] at beyond
    rw [others number (by omega)]
    exact sinking.routed.ahead number beyond
  · rw [requests]
    exact sinking.routed.numbers

/-- The way of a request grows by its own calls. -/
theorem way_append {made : List (StackCall Options Arguments)}
    (grown : after.calls = before.calls ++ made) (number : Nat) :
    after.way number = before.way number ++ made.filter (StackCall.onWay number) := by
  rw [way, way, grown, List.filter_append]

/-- A refused request has its whole way. -/
theorem Sinking.refused (sinking : before.Sinking extensions level request)
    (within : level < extensions.length)
    (refused : Refused (extensionAt extensions level) level request answered before after) :
    after.Settled extensions := by
  have grown : after.calls = before.calls ++ [.refused level request answered] := by
    rw [refused.same]
  have published : after.published = before.published := by rw [refused.same]
  refine sinking.settled (by rw [refused.same]) (fun number other => ?_) ?_ ?_ ?_
  · rw [way_append grown]
    simp [StackCall.onWay, refused.number, Ne.symm other]
  · intro original found same arrived
    obtain ⟨message, answer⟩ := refused.answer
    have is : answered = ⟨original.stream.number, original.connection, .error message⟩ := by
      cases answered
      simp only [StackAnswer.mk.injEq]
      refine ⟨?_, ?_, answer⟩
      · exact refused.number.trans (by rw [same]; rfl)
      · exact refused.connection.trans (by rw [same]; rfl)
    have went : Went extensions original (arrivals extensions original level ++
        [(.refused level (reached extensions original level) ⟨original.stream.number,
          original.connection, .error message⟩ : StackCall Options Arguments)]) :=
      .refused level message within
    rw [← same, ← is] at went
    rw [way_append grown, arrived]
    convert went using 2
    simp [StackCall.onWay, refused.number]
  · rw [published, sinking.routed.published, grown, List.filterMap_append]
    exact (List.append_nil _).symm
  · intro pair member
    rw [grown, List.filterMap_append] at member
    rw [published]
    exact sinking.routed.completed pair (by simpa [StackCall.completion] using member)

/-- A request that comes through all extensions is published. -/
theorem Sinking.published (sinking : state.Sinking extensions extensions.length request) :
    (state.defaultHandler request).Settled extensions := by
  have grown : (state.defaultHandler request).calls = state.calls ++ [.publish request] := rfl
  have published : (state.defaultHandler request).published =
      state.published ++ [(request.stream.number, request.connection)] := rfl
  refine sinking.settled rfl (fun number other => ?_) ?_ ?_ ?_
  · rw [way_append grown]
    simp [StackCall.onWay, Ne.symm other]
  · intro original found same arrived
    have went : Went extensions original (arrivals extensions original extensions.length ++
      [(.publish (reached extensions original extensions.length) : StackCall Options Arguments)]) :=
      .published
    rw [← same] at went
    rw [way_append grown, arrived]
    convert went using 2
    simp [StackCall.onWay]
  · rw [published, sinking.routed.published, grown, List.filterMap_append]
    rfl
  · intro pair member
    rw [grown, List.filterMap_append] at member
    rw [published]
    refine List.mem_append_left _ (sinking.routed.completed pair ?_)
    simpa [StackCall.completion] using member

/-- A request that is passed on has come one extension further. -/
theorem Sinking.passed (sinking : before.Sinking extensions level request)
    (passes : Onward (extensionAt extensions level) level request onward before after) :
    after.Sinking extensions (level + 1) onward := by
  obtain ⟨original, found, same, arrived⟩ := sinking.original
  have number : onward.stream.number = request.stream.number := by rw [passes.wrapped]; rfl
  have grown : after.calls = before.calls ++ [.next level request] := by rw [passes.same]
  have requests : after.requests = before.requests := by rw [passes.same]
  have last := sinking.last
  have published : after.published = before.published := by rw [passes.same]
  refine ⟨⟨fun other original inside found => ?_, fun other beyond => ?_, ?_, ?_, ?_⟩, ?_, original,
    ?_, ?_, ?_⟩
  · rw [number] at inside
    rw [requests] at found
    rw [way_append grown]
    have apart : request.stream.number ≠ other := by omega
    simpa [StackCall.onWay, apart] using sinking.routed.went other original inside found
  · rw [requests] at beyond
    have apart : request.stream.number ≠ other := by omega
    rw [way_append grown, sinking.routed.ahead other beyond]
    simp [StackCall.onWay, apart]
  · rw [requests]
    exact sinking.routed.numbers
  · rw [published, sinking.routed.published, grown, List.filterMap_append]
    exact (List.append_nil _).symm
  · intro pair member
    rw [grown, List.filterMap_append] at member
    rw [published]
    exact sinking.routed.completed pair (by simpa [StackCall.completion] using member)
  · rw [requests, number]
    exact last
  · rw [requests, number]
    exact found
  · rw [passes.wrapped, reached_succ, ← same]
  · rw [number, way_append grown, arrived, arrivals_succ, ← same]
    simp [StackCall.onWay]

/-- An answer changes nothing about the ways. -/
theorem Settled.answer (settled : state.Settled extensions) (level : Nat)
    (answered : StackAnswer Arguments) :
    (state.answer extensions level answered).Settled extensions := by
  have callback (level : Nat) (answered : StackAnswer Arguments)
      (state : ExtensionStack Options Arguments) (settled : state.Settled extensions) :
      ((layers extensions level).answer state answered).1.Settled extensions := by
    obtain ⟨requests, published, calls⟩ := called_of_answer extensions level state answered
    exact settled.call (.callback level answered) ⟨requests, published⟩ (fun _ => rfl) rfl nofun
      calls
  refine Layer.ascend_rule (fun _ _ state => Settled extensions state) (Settled extensions)
    (fun answered _ settled => ?_) ?_ ?_ settled
  · exact settled.call (.cb answered) ⟨rfl, rfl⟩ (fun _ => rfl) rfl nofun rfl
  · intro level answered state next settled answers
    have moved := callback level answered state settled
    rwa [answers] at moved
  · intro level answered state next passed settled answers
    have moved := callback level answered state settled
    rwa [answers] at moved

/-- A request goes its whole way in one step. -/
theorem Settled.publish (settled : state.Settled extensions)
    (stream : request.stream = { number := state.requests.length }) :
    (state.publish extensions request).Settled extensions := by
  have number : request.stream.number = state.requests.length := by rw [stream]
  refine Layer.descend_rule (fun _ _ state => Settled extensions state)
    (fun level request state => Sinking extensions level request state) (Settled extensions)
    extensions.length (fun _ _ sinking => sinking.published) ?_
    (fun level request state settled => ?_)
    (fun level answered _ settled => settled.answer level answered) ?_ (Nat.zero_add _) ?_
  · exact fun _ _ _ _ _ within sinking refuses =>
      sinking.refused within (refused_of_request refuses)
  · change Settled extensions (state.afterRefusal request (extensionAt extensions level))
    unfold afterRefusal
    split
    · exact settled.call (.destroy request.connection) ⟨rfl, rfl⟩ (fun _ => rfl) rfl nofun rfl
    · exact settled
  · exact fun _ _ _ _ _ _ sinking passes => sinking.passed (onward_of_request passes)
  · refine ⟨⟨fun other original inside found => ?_, fun other beyond => ?_, ?_, settled.published,
      settled.completed⟩, ?_, request, ?_, ?_, ?_⟩
    · rw [number] at inside
      have old := (List.getElem?_append_left inside).symm.trans found
      exact settled.went other original inside old
    · refine settled.ahead other (Nat.le_of_succ_le ?_)
      simpa using beyond
    · intro other original found
      rcases Nat.lt_or_ge other state.requests.length with inside | beyond
      · exact settled.numbers other original ((List.getElem?_append_left inside).symm.trans found)
      · have within := (List.getElem?_eq_some_iff.mp found).1
        rw [List.length_append, List.length_singleton] at within
        obtain rfl : other = state.requests.length := by omega
        obtain rfl := Option.some.inj (List.getElem?_concat_length.symm.trans found)
        exact stream
    · simp [number]
    · rw [number]
      exact List.getElem?_concat_length
    · unfold reached
      rw [stream]
      cases request
      simp_all
    · exact settled.ahead _ (Nat.le_of_eq number.symm)

/-- After each step every request has its whole way. -/
theorem Settled.step {event : Event Options Arguments} (settled : before.Settled extensions)
    (stepped : ExtensionStack.step extensions before event = some after) :
    after.Settled extensions := by
  have release (state : ExtensionStack Options Arguments) (connection : Nat)
      (called : Option Nat × Emitter Nat) (settled : state.Settled extensions) :
      (state.release extensions connection called).Settled extensions := by
    unfold ExtensionStack.release
    dsimp only
    split
    · exact settled.same ⟨rfl, rfl⟩ rfl
    · refine Settled.answer ?_ _ _
      exact settled.same ⟨rfl, rfl⟩ rfl
  cases event with
  | publish connection topic options =>
      obtain rfl := Option.some.inj stepped
      exact settled.publish rfl
  | completed published arguments =>
      obtain ⟨⟨number, connection⟩, found, rfl⟩ := Option.map_eq_some_iff.mp stepped
      refine Settled.answer ?_ _ _
      refine settled.call (.completed _) ⟨rfl, rfl⟩ (fun _ => rfl) rfl ?_ rfl
      rintro pair ⟨⟩
      exact List.mem_of_getElem? found
  | backoff connection =>
      simp only [ExtensionStack.step] at stepped
      split at stepped <;> obtain rfl := Option.some.inj stepped
      · exact settled.same ⟨rfl, rfl⟩ rfl
      · exact settled
  | drain connection =>
      obtain rfl := Option.some.inj stepped
      exact release _ _ _ (settled.same ⟨rfl, rfl⟩ rfl)
  | returned connection =>
      obtain ⟨called, -, rfl⟩ := Option.map_eq_some_iff.mp stepped
      exact release _ _ _ settled
  | timeout timer =>
      obtain ⟨⟨level, number⟩, -, rfl⟩ := Option.map_eq_some_iff.mp stepped
      exact settled.call (.timeout level number) ⟨rfl, rfl⟩ (fun _ => rfl) rfl nofun rfl

end ExtensionStack
end Centro
