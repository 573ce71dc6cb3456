import Centro.Proof.ExtensionStack.Limits
import Centro.Proof.ExtensionStack.Way
import Mathlib.Data.List.Perm.Subperm

namespace Centro

open Library

variable {Options Arguments : Type*}

namespace StackAnswer

/-- The answer of a callback for this request. -/
def toRequest (number : Nat) (answered : StackAnswer Arguments) :
    Option (PublishAnswer Arguments) :=
  if answered.number = number then some answered.answer else none

end StackAnswer

namespace StackCall

def refusalAnswer : StackCall Options Arguments → Option (StackAnswer Arguments)
  | refused _ _ answered => some answered
  | _ => none

def completionAnswer : StackCall Options Arguments → Option (StackAnswer Arguments)
  | completed answered => some answered
  | _ => none

def responseAnswer : StackCall Options Arguments → Option (StackAnswer Arguments)
  | cb answered => some answered
  | _ => none

end StackCall

namespace ExtensionStack

variable {extensions : List PublishExtension} {number connection : Nat}
  {state before after : ExtensionStack Options Arguments}
  {request original : PublishRequest PublishStream Options} {flight : Flight Arguments}
  {events : List (Event Options Arguments)}

/-- The handlers refused a request with these errors. -/
def refusalsTo (number : Nat) (state : ExtensionStack Options Arguments) :
    List (PublishAnswer Arguments) :=
  state.calls.filterMap fun made => made.refusalAnswer.bind (StackAnswer.toRequest number)

/-- The default handler called the callback of a request with these arguments. -/
def completionsTo (number : Nat) (state : ExtensionStack Options Arguments) :
    List (PublishAnswer Arguments) :=
  state.calls.filterMap fun made => made.completionAnswer.bind (StackAnswer.toRequest number)

/-- The callback that came with a request was called with these answers. -/
def responsesTo (number : Nat) (state : ExtensionStack Options Arguments) :
    List (PublishAnswer Arguments) :=
  state.calls.filterMap fun made => made.responseAnswer.bind (StackAnswer.toRequest number)

/-- The connection does not back off, and no emission of `drain` on it is in progress. -/
def Calm (connection : Nat) (state : ExtensionStack Options Arguments) : Prop :=
  state.boProp connection = false ∧ (state.drain connection).emissions = []

/-- Every run keeps both invariants. -/
theorem orderly_of_run
    (ran : (system extensions).run (system extensions).initial events = some state) :
    state.Orderly extensions .settled := by
  have start : ({} : ExtensionStack Options Arguments).Orderly extensions .settled := by
    refine ⟨kept_initial extensions, justified_nil, fun _ _ _ => ⟨rfl, Int.natCast_nonneg _⟩,
      fun _ => rfl, fun _ _ _ _ _ => rfl, fun _ => List.not_mem_nil.elim,
      fun _ _ => List.not_mem_nil.elim, fun _ _ => List.not_mem_nil.elim,
      fun _ _ => List.not_mem_nil.elim⟩
  exact @TransitionSystem.run_invariant _ _ (system extensions) (Orderly extensions .settled)
    (fun _ _ _ orderly stepped => orderly.step stepped) _ _ _ start ran

/-- Between the steps of a run no request is on its way. -/
theorem settled_of_run
    (ran : (system extensions).run (system extensions).initial events = some state) :
    state.Settled extensions := by
  have start : ({} : ExtensionStack Options Arguments).Settled extensions :=
    ⟨fun _ _ => fun inside => (Nat.not_lt_zero _ inside).elim, fun _ _ => rfl, nofun, rfl,
      fun _ => List.not_mem_nil.elim⟩
  exact @TransitionSystem.run_invariant _ _ (system extensions) (Settled extensions)
    (fun _ _ _ settled stepped => settled.step stepped) _ _ _ start ran

/-- The answers for a request are those on its connection. -/
theorem filterMap_request {pick : StackCall Options Arguments → Option (StackAnswer Arguments)}
    {calls : List (StackCall Options Arguments)}
    (known : ∀ made ∈ calls, ∀ answered, pick made = some answered → answered.number = number →
      answered.connection = connection) :
    calls.filterMap (fun made => (pick made).bind (StackAnswer.toRequest number)) =
      (calls.filterMap fun made => (pick made).bind (StackAnswer.onConnection connection)).filterMap
        (StackAnswer.toRequest number) := by
  rw [List.filterMap_filterMap]
  refine List.filterMap_congr fun made member => ?_
  cases picked : pick made with
  | none => rfl
  | some answered =>
      by_cases same : answered.number = number
      · simp [StackAnswer.onConnection, known made member answered picked same]
      · have none : StackAnswer.toRequest number answered = none := by
          simp [StackAnswer.toRequest, same]
        cases there : StackAnswer.onConnection connection answered with
        | none => simp [there, none]
        | some other =>
            unfold StackAnswer.onConnection at there
            split at there <;> simp_all [StackAnswer.onConnection]

/-- An answer belongs to the connection of its request. -/
theorem connection_of_number (kept : state.Kept extensions flight)
    (found : state.requests[number]? = some original) {answered : StackAnswer Arguments}
    (given : answered ∈ state.issued answered.connection) (same : answered.number = number) :
    answered.connection = original.connection := by
  have known := kept.numbers _ answered given
  rw [connections, List.getElem?_map, same, found] at known
  exact (Option.some.inj known).symm

/-- Refusals and completions are what was issued to a connection. -/
theorem issued_eq (connection : Nat) : state.issued connection =
    state.calls.filterMap fun made =>
      (made.refusalAnswer.or made.completionAnswer).bind (StackAnswer.onConnection connection) := by
  unfold issued
  congr 1
  funext made
  cases made <;> rfl

/-- These are the responses that a connection got. -/
theorem responses_eq (connection : Nat) : state.responses connection =
    state.calls.filterMap fun made =>
      made.responseAnswer.bind (StackAnswer.onConnection connection) := by
  unfold responses
  congr 1
  funext made
  cases made <;> rfl

/-- Two ways to take from the items of a list, of which at most one applies to each, take together
what both take. -/
theorem filterMap_or {α β : Type*} {first second : α → Option β} {items : List α}
    (apart : ∀ item, first item = none ∨ second item = none) :
    (items.filterMap fun item => (first item).or (second item)).Perm
      (items.filterMap first ++ items.filterMap second) := by
  induction items with
  | nil => rfl
  | cons item items ih =>
      rcases apart item with none | none
      · cases other : second item with
        | none => simpa [none, other] using ih
        | some taken =>
            simp only [List.filterMap_cons, none, other, Option.none_or]
            exact (ih.cons taken).trans List.perm_middle.symm
      · cases other : first item with
        | none => simpa [none, other] using ih
        | some taken => simpa [none, other] using ih

/-- What was issued for a request are the refusals and the completions. -/
theorem issued_perm (kept : state.Kept extensions flight)
    (found : state.requests[number]? = some original) :
    ((state.issued original.connection).filterMap (StackAnswer.toRequest number)).Perm
      (state.refusalsTo number ++ state.completionsTo number) := by
  have known : ∀ made ∈ state.calls, ∀ answered,
      made.refusalAnswer.or made.completionAnswer = some answered → answered.number = number →
        answered.connection = original.connection := by
    intro made member answered given same
    refine connection_of_number kept found ?_ same
    rw [issued_eq]
    refine List.mem_filterMap.mpr ⟨made, member, ?_⟩
    rw [given]
    simp [StackAnswer.onConnection]
  rw [issued_eq, ← filterMap_request known, refusalsTo, completionsTo]
  refine List.Perm.trans (List.Perm.of_eq ?_) (filterMap_or fun made => ?_)
  · congr 1
    funext made
    cases made <;> simp [StackCall.refusalAnswer, StackCall.completionAnswer]
  · cases made <;> simp [StackCall.refusalAnswer, StackCall.completionAnswer]

/-- The responses to one request are among those of its connection. -/
theorem responses_toRequest (kept : state.Kept extensions flight)
    (found : state.requests[number]? = some original) :
    (state.responses original.connection).filterMap (StackAnswer.toRequest number) =
      state.responsesTo number := by
  rw [responses_eq]
  symm
  apply filterMap_request
  intro made member answered given same
  refine connection_of_number kept found (kept.responses_issued ?_) same
  rw [responses_eq]
  refine List.mem_filterMap.mpr ⟨made, member, ?_⟩
  rw [given]
  simp [StackAnswer.onConnection]

/-- No answer waits on a connection that is calm. -/
theorem held_of_calm (kept : state.Kept extensions flight) (calm : state.Calm connection) :
    state.held connection = [] := by
  have waiting : (state.drain connection).waiting = [] := by
    rcases kept.waits.covered connection calm.1 with none | ⟨listeners, member, -⟩
    · exact none
    · rw [calm.2] at member
      cases member
  rw [held, waiting]
  rfl

/-- The callback of a request is called at most with the answers that were given for it, and with
all of them on a calm connection. -/
theorem responses_given (kept : state.Kept extensions .settled)
    (found : state.requests[number]? = some original) :
    (state.responsesTo number).Subperm (state.refusalsTo number ++ state.completionsTo number) ∧
      (state.Calm original.connection → (state.responsesTo number).Perm
        (state.refusalsTo number ++ state.completionsTo number)) := by
  have split := (kept.split original.connection).filterMap (StackAnswer.toRequest number)
  rw [Flight.flying_settled, List.append_nil, List.filterMap_append,
    responses_toRequest kept found] at split
  have given := split.trans (issued_perm kept found)
  refine ⟨(List.sublist_append_left _ _).subperm.trans given.subperm, fun calm => ?_⟩
  rw [held_of_calm kept calm] at given
  simpa using given

/-- The calls on the way of a request are all that tell of it. -/
theorem filterMap_way {α : Type*} {pick : StackCall Options Arguments → Option α}
    (only : ∀ made, made.onWay number = false → pick made = none) :
    (state.way number).filterMap pick = state.calls.filterMap pick := by
  rw [way, List.filterMap_filter]
  refine List.filterMap_congr fun made _ => ?_
  cases on : made.onWay number with
  | true => rfl
  | false => exact (only made on).symm

theorem filterMap_arrivals {α : Type*} {pick : StackCall Options Arguments → Option α}
    (none : ∀ level request, pick (.next level request) = none) (count : Nat) :
    (arrivals extensions original count).filterMap pick = [] := by
  refine List.filterMap_eq_nil_iff.mpr fun made member => ?_
  obtain ⟨level, -, rfl⟩ := List.mem_map.mp member
  exact none level _

/-- The default handler holds the callbacks of the requests that it got. -/
theorem published_way (settled : state.Settled extensions) (number : Nat) :
    state.published.filter (·.1 = number) =
      (state.way number).filterMap fun made => made.holds.filter (·.1 = number) := by
  rw [filterMap_way, settled.published, List.filter_filterMap]
  intro made on
  cases made with
  | publish request => simpa [StackCall.onWay, StackCall.holds, Option.filter] using on
  | _ => rfl

/-- The refusals of a request are on its way. -/
theorem refusals_way (number : Nat) : state.refusalsTo number =
    (state.way number).filterMap fun made =>
      made.refusalAnswer.bind (StackAnswer.toRequest number) := by
  refine (filterMap_way fun made on => ?_).symm
  cases made with
  | refused level request answered =>
      simpa [StackCall.onWay, StackCall.refusalAnswer, StackAnswer.toRequest] using on
  | _ => rfl

/-- A request was refused once, or the default handler got it once. -/
theorem refused_or_published (settled : state.Settled extensions)
    (found : state.requests[number]? = some original) :
    (∃ message, state.refusalsTo number = [.error message] ∧ state.completionsTo number = [] ∧
        state.published.filter (·.1 = number) = []) ∨
      (state.refusalsTo number = [] ∧
        state.published.filter (·.1 = number) = [(number, original.connection)]) := by
  have within := (List.getElem?_eq_some_iff.mp found).1
  have stream := settled.numbers number original found
  have same : original.stream.number = number := by rw [stream]
  have went := settled.went number original within found
  rw [published_way settled, refusals_way]
  generalize shape : state.way number = way at went
  cases went with
  | refused level message inside =>
      have none : state.published.filter (·.1 = number) = [] := by
        rw [published_way settled, shape, List.filterMap_append, filterMap_arrivals fun _ _ => rfl]
        rfl
      refine Or.inl ⟨message, ?_, ?_, ?_⟩
      · rw [List.filterMap_append, filterMap_arrivals fun _ _ => rfl]
        simp [StackCall.refusalAnswer, StackAnswer.toRequest, same]
      · refine List.filterMap_eq_nil_iff.mpr fun made member => ?_
        cases made with
        | completed answered =>
            have held := settled.completed (answered.number, answered.connection)
              (List.mem_filterMap.mpr ⟨_, member, rfl⟩)
            have other : answered.number ≠ number := fun equal =>
              List.filter_eq_nil_iff.mp none _ held (decide_eq_true equal)
            simp [StackCall.completionAnswer, StackAnswer.toRequest, other]
        | _ => rfl
      · rw [← shape, ← published_way settled, none]
  | published =>
      refine Or.inr ⟨?_, ?_⟩
      · rw [List.filterMap_append, filterMap_arrivals fun _ _ => rfl]
        rfl
      · rw [List.filterMap_append, filterMap_arrivals fun _ _ => rfl]
        simp [StackCall.holds, reached, same, Option.filter]

/-- The callback of a request is called with answers that a handler or the default handler gave for
it, never more often, and with all of them once its connection is calm. The request was refused
once, or the default handler got it once. -/
structure Answered (number : Nat) (original : PublishRequest PublishStream Options)
    (state : ExtensionStack Options Arguments) : Prop where
  given : (state.responsesTo number).Subperm (state.refusalsTo number ++ state.completionsTo number)
  calm : state.Calm original.connection → (state.responsesTo number).Perm
    (state.refusalsTo number ++ state.completionsTo number)
  once : (∃ message, state.refusalsTo number = [.error message] ∧ state.completionsTo number = [] ∧
      state.published.filter (·.1 = number) = []) ∨
    (state.refusalsTo number = [] ∧
      state.published.filter (·.1 = number) = [(number, original.connection)])

/-- Every request of every run is answered so, whatever extensions are attached in any order. -/
theorem publish_answered (extensions : List PublishExtension)
    (events : List (Event Options Arguments))
    (ran : (system extensions).run (system extensions).initial events = some state)
    (found : state.requests[number]? = some original) : state.Answered number original := by
  have given := responses_given (orderly_of_run ran).kept found
  exact ⟨given.1, given.2, refused_or_published (settled_of_run ran) found⟩

/-- Two requests arrive while one slot is free, and the connection backs off when the first one
completes. -/
theorem publish_answered_sample : ∃ state : ExtensionStack Unit Nat,
    (system [.limitActivePublications 1, .backoff]).run {}
      [.publish 0 [] (), .backoff 0, .publish 0 [] (), .completed 0 7, .drain 0, .returned 0] =
        some state ∧ state.responsesTo 0 = [.arguments 7] ∧ (state.responsesTo 1).length = 1 ∧
      ∃ first second, state.Answered 0 first ∧ state.Answered 1 second :=
  ⟨_, rfl, rfl, rfl, _, _,
    publish_answered [.limitActivePublications 1, .backoff]
      [.publish 0 [] (), .backoff 0, .publish 0 [] (), .completed 0 7, .drain 0, .returned 0]
      rfl rfl,
    publish_answered [.limitActivePublications 1, .backoff]
      [.publish 0 [] (), .backoff 0, .publish 0 [] (), .completed 0 7, .drain 0, .returned 0]
      rfl rfl⟩

/-- The requests are those that the clients made. -/
def Event.asked : Event Options Arguments → Option (Nat × JsString × Options)
  | publish connection topic options => some (connection, topic, options)
  | _ => none

def Requested (requests : List (PublishRequest PublishStream Options))
    (state : ExtensionStack Options Arguments) : Prop :=
  state.requests = requests

/-- An answer adds no request. -/
theorem requests_answer (state : ExtensionStack Options Arguments) (level : Nat)
    (answered : StackAnswer Arguments) :
    (state.answer extensions level answered).requests = state.requests := by
  have start : Requested state.requests state := rfl
  refine Layer.ascend_rule (fun _ _ => Requested state.requests) (Requested state.requests)
    ?_ ?_ ?_ start
  · exact fun _ _ same => same
  · intro level answered other next same answers
    have called := (called_of_answer extensions level other answered).1
    rw [answers] at called
    exact called.trans same
  · intro level answered other next passed same answers
    have called := (called_of_answer extensions level other answered).1
    rw [answers] at called
    exact called.trans same

/-- A publication adds one request. -/
theorem requests_publish (state : ExtensionStack Options Arguments)
    (request : PublishRequest PublishStream Options) :
    (state.publish extensions request).requests = state.requests ++ [request] := by
  have start : Requested (state.requests ++ [request])
      { state with requests := state.requests ++ [request] } := rfl
  refine Layer.descend_rule (fun _ _ => Requested (state.requests ++ [request]))
    (fun _ _ => Requested (state.requests ++ [request])) (Requested (state.requests ++ [request]))
    extensions.length ?_ ?_ ?_ ?_ ?_ (Nat.zero_add _) start
  · exact fun _ _ same => same
  · intro level request other next answered _ same refuses
    rw [Requested, (refused_of_request refuses).same]
    exact same
  · intro level request other same
    change (other.afterRefusal request (extensionAt extensions level)).requests = _
    unfold afterRefusal
    split <;> exact same
  · exact fun level answered other same => (requests_answer other level answered).trans same
  · intro level request other next passed _ same passes
    rw [Requested, (onward_of_request passes).same]
    exact same

/-- A released answer adds no request. -/
theorem requests_release (state : ExtensionStack Options Arguments) (connection : Nat)
    (called : Option Nat × Emitter Nat) :
    (state.release extensions connection called).requests = state.requests := by
  unfold release
  dsimp only
  split
  · rfl
  · exact requests_answer _ _ _

/-- A step adds the request of its event. -/
theorem requests_step {event : Event Options Arguments}
    (stepped : step extensions before event = some after) :
    after.requests.map (fun request => (request.connection, request.topic, request.options)) =
      before.requests.map (fun request => (request.connection, request.topic, request.options)) ++
        event.asked.toList := by
  cases event with
  | publish connection topic options =>
      obtain rfl := Option.some.inj stepped
      rw [requests_publish, List.map_append]
      rfl
  | completed published arguments =>
      obtain ⟨⟨number, connection⟩, -, rfl⟩ := Option.map_eq_some_iff.mp stepped
      rw [requests_answer]
      exact (List.append_nil _).symm
  | backoff connection =>
      simp only [step] at stepped
      split at stepped <;> obtain rfl := Option.some.inj stepped <;>
        exact (List.append_nil _).symm
  | drain connection =>
      obtain rfl := Option.some.inj stepped
      rw [requests_release]
      exact (List.append_nil _).symm
  | returned connection =>
      obtain ⟨called, -, rfl⟩ := Option.map_eq_some_iff.mp stepped
      rw [requests_release]
      exact (List.append_nil _).symm
  | timeout timer =>
      obtain ⟨⟨level, number⟩, -, rfl⟩ := Option.map_eq_some_iff.mp stepped
      exact (List.append_nil _).symm

/-- The requests of a run are those of its events. -/
theorem requests_run {first : ExtensionStack Options Arguments}
    (ran : (system extensions).run first events = some state) :
    state.requests.map (fun request => (request.connection, request.topic, request.options)) =
      first.requests.map (fun request => (request.connection, request.topic, request.options)) ++
        events.filterMap Event.asked := by
  induction events generalizing first with
  | nil =>
      obtain rfl : first = state := by simpa [TransitionSystem.run] using ran
      exact (List.append_nil _).symm
  | cons event rest ih =>
      obtain ⟨next, stepped, ran⟩ := Option.bind_eq_some_iff.mp ran
      rw [ih ran, requests_step stepped, List.append_assoc]
      cases asked : event.asked <;> simp [asked]

/-- The handlers get each request in the order in which their extensions were attached, with its
stream piped through the transforms of the earlier ones. One that refuses it hides it from the later
handlers and the default handler, and otherwise all of them get it. -/
theorem publish_way (extensions : List PublishExtension)
    (events : List (Event Options Arguments))
    (ran : (system extensions).run (system extensions).initial events = some state) :
    state.requests.map (fun request => (request.connection, request.topic, request.options)) =
        events.filterMap Event.asked ∧
      ∀ number original, state.requests[number]? = some original →
        original.stream = { number } ∧ Went extensions original (state.way number) := by
  have settled := settled_of_run ran
  refine ⟨requests_run ran, fun number original found => ?_⟩
  have within := (List.getElem?_eq_some_iff.mp found).1
  exact ⟨settled.numbers number original found, settled.went number original within found⟩

/-- A request is refused by the handler after one that takes a slot for it. -/
theorem publish_way_sample : ∃ state : ExtensionStack Unit Nat,
    (system [.throttlePublishStreams, .limitConnPublishedMessages 1 false]).run {}
      [.publish 0 [] (), .publish 0 [] ()] = some state ∧ (state.way 1).length = 2 ∧
      ∀ number original, state.requests[number]? = some original →
        original.stream = { number } ∧
          Went [.throttlePublishStreams, .limitConnPublishedMessages 1 false] original
            (state.way number) :=
  ⟨_, rfl, rfl, (publish_way [.throttlePublishStreams, .limitConnPublishedMessages 1 false]
    [.publish 0 [] (), .publish 0 [] ()] rfl).2⟩

/-- A handler with a limit refuses exactly what is beyond its limit, with the other handlers before
and after it. A slot is free again when the callback of its request was called, also after a later
handler refused this. A timer goes at most once and not after that callback. -/
theorem publish_limited (extensions : List PublishExtension)
    (events : List (Event Options Arguments))
    (ran : (system extensions).run (system extensions).initial events = some state) :
    Justified (Decided extensions) state.calls ∧
      ∀ level maxPublications,
        extensionAt extensions level = .limitActivePublications maxPublications →
          state.count level = (slots level state.calls).length ∧
            state.count level ≤ maxPublications := by
  have limited := (orderly_of_run ran).limited
  refine ⟨limited.decided, fun level maxPublications kind => ?_⟩
  obtain ⟨same, upper⟩ := limited.occupied level maxPublications kind
  refine ⟨?_, upper⟩
  rw [limited.count, List.countP_eq_length_filter, ← same, List.length_map]

/-- A slot that a later handler's refusal freed is taken again, and a timer goes. -/
theorem publish_limited_sample : ∃ state : ExtensionStack Unit Nat,
    (system [.limitActivePublications 1, .timeoutPublishStreams,
      .limitConnPublishedMessages 0 true]).run {}
      [.publish 0 [] (), .publish 1 [] ()] = some state ∧ state.calls.length = 14 ∧
      state.count 0 = (slots 0 state.calls).length ∧ state.count 0 ≤ 1 :=
  ⟨_, rfl, rfl, (publish_limited [.limitActivePublications 1, .timeoutPublishStreams,
    .limitConnPublishedMessages 0 true] [.publish 0 [] (), .publish 1 [] ()] rfl).2 0 1 rfl⟩

/-- Nothing is left over of the requests when all connections are calm and the default handler has
called all callbacks that it got: no slot is taken and no timer is pending. -/
theorem publish_released (extensions : List PublishExtension)
    (events : List (Event Options Arguments))
    (ran : (system extensions).run (system extensions).initial events = some state)
    (calm : ∀ connection, state.Calm connection)
    (completed : ∀ pair ∈ state.published, state.completionsTo pair.1 ≠ []) :
    (∀ level, state.count level = 0) ∧ state.timers = [] := by
  have orderly := orderly_of_run ran
  have settled := settled_of_run ran
  have none : state.pairs = [] := by
    refine List.eq_nil_iff_forall_not_mem.mpr fun pair member => ?_
    have opened := orderly.kept.opened pair member
    have known := opened.known
    rw [connections, List.length_map] at known
    have found := List.getElem?_eq_getElem known
    have responded := (responses_given orderly.kept found).2 (calm _)
    have given : state.refusalsTo pair.2 ++ state.completionsTo pair.2 ≠ [] := by
      rcases refused_or_published settled found with ⟨message, refused, -, -⟩ | ⟨-, published⟩
      · simp [refused]
      · have held : (pair.2, state.requests[pair.2].connection) ∈ state.published := by
          have inside : (pair.2, state.requests[pair.2].connection) ∈
              state.published.filter (·.1 = pair.2) := by simp [published]
          exact (List.mem_filter.mp inside).1
        exact List.append_ne_nil_of_right_ne_nil _ (completed _ held)
    have responses : state.responsesTo pair.2 ≠ [] := fun empty =>
      given (by simpa [empty] using responded)
    obtain ⟨answer, inside⟩ := List.exists_mem_of_ne_nil _ responses
    rw [← responses_toRequest orderly.kept found] at inside
    obtain ⟨answered, got, same⟩ := List.mem_filterMap.mp inside
    unfold StackAnswer.toRequest at same
    split at same
    · next number => exact opened.unanswered _ answered got number
    · cases same
  obtain ⟨decrement, timers⟩ := List.append_eq_nil_iff.mp none
  refine ⟨fun level => ?_, timers⟩
  rw [orderly.limited.count, decrement]
  rfl

/-- One request completes and another one is refused. -/
theorem publish_released_sample : ∃ state : ExtensionStack Unit Nat,
    (system [.limitActivePublications 1, .timeoutPublishStreams]).run {}
      [.publish 0 [] (), .publish 0 [] (), .completed 0 7] = some state ∧
      (∀ level, state.count level = 0) ∧ state.timers = [] := by
  refine ⟨_, rfl, publish_released [.limitActivePublications 1, .timeoutPublishStreams]
    [.publish 0 [] (), .publish 0 [] (), .completed 0 7] rfl (fun _ => ⟨rfl, rfl⟩)
    fun pair member => ?_⟩
  obtain rfl := List.mem_singleton.mp member
  exact List.cons_ne_nil _ _

end ExtensionStack
end Centro
