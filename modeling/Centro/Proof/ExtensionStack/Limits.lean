import Centro.Library.Trace
import Centro.Proof.ExtensionStack.Answers

namespace Centro

open Library

variable {Options Arguments : Type*}

namespace StackCall

/-- A handler passes this request on. -/
def taken (level : Nat) : StackCall Options Arguments → Option Nat
  | next other request => if other = level then some request.stream.number else none
  | _ => none

/-- The callback that a handler passed on with this request is called. -/
def frees (level number : Nat) : StackCall Options Arguments → Bool
  | callback other answered => other == level && answered.number == number
  | _ => false

/-- A handler gets a request of this connection. -/
def arrives (level connection : Nat) : StackCall Options Arguments → Bool
  | next other request | refused other request _ =>
      other == level && request.connection == connection
  | _ => false

end StackCall

namespace ExtensionStack

variable {extensions : List PublishExtension} {level number connection : Nat}
  {state before after : ExtensionStack Options Arguments} {answered : StackAnswer Arguments}
  {request onward : PublishRequest PublishStream Options} {flight later : Flight Arguments}
  {calls : List (StackCall Options Arguments)} {made : StackCall Options Arguments}

/-- A handler passed these requests on, and the callbacks that it passed on were not called yet. -/
def slots (level : Nat) (calls : List (StackCall Options Arguments)) : List Nat :=
  (calls.filterMap (StackCall.taken level)).filter fun number =>
    !calls.any (StackCall.frees level number)

/-- A handler got so many requests of a connection. -/
def arrived (level connection : Nat) (calls : List (StackCall Options Arguments)) : Nat :=
  calls.countP (StackCall.arrives level connection)

/-- A handler with a limit refuses a request exactly when the limit is reached. A timer goes at most
once, and only while the callback of its request was not called. -/
def Decided (extensions : List PublishExtension) (calls : List (StackCall Options Arguments)) :
    StackCall Options Arguments → Prop
  | .next level request => match extensionAt extensions level with
      | .limitActivePublications maxPublications => (slots level calls).length < maxPublications
      | .limitConnPublishedMessages maxConnPublishedMessages _ =>
          arrived level request.connection calls < maxConnPublishedMessages
      | _ => True
  | .refused level request _ => match extensionAt extensions level with
      | .limitActivePublications maxPublications => (slots level calls).length = maxPublications
      | .limitConnPublishedMessages maxConnPublishedMessages _ =>
          maxConnPublishedMessages ≤ arrived level request.connection calls
      | _ => False
  | .timeout level number => number ∈ slots level calls ∧ .timeout level number ∉ calls
  | _ => True

/-- The variables of the handlers are what the calls say. -/
structure Limited (extensions : List PublishExtension) (flight : Flight Arguments)
    (state : ExtensionStack Options Arguments) : Prop where
  decided : Justified (Decided extensions) state.calls
  occupied : ∀ level maxPublications,
    extensionAt extensions level = .limitActivePublications maxPublications →
      (state.decrement.filter (·.1 = level)).map Prod.snd = slots level state.calls ∧
        state.count level ≤ maxPublications
  count : ∀ level, state.count level = state.decrement.countP (·.1 = level)
  messages : ∀ level maxMessages closeConn connection,
    extensionAt extensions level = .limitConnPublishedMessages maxMessages closeConn →
      state.messages (level, connection) = arrived level connection state.calls
  timers : ∀ pair ∈ state.timers,
    pair.2 ∈ slots pair.1 state.calls ∧ .timeout pair.1 pair.2 ∉ state.calls
  called : ∀ level answered, .callback level answered ∈ state.calls →
    answered ∈ state.issued answered.connection
  taken : ∀ level, ∀ number ∈ state.calls.filterMap (StackCall.taken level),
    number < state.connections.length ∧ ∀ target, flight = .sinking target number → level < target
  timed : ∀ level number, .timeout level number ∈ state.calls →
    number ∈ state.calls.filterMap (StackCall.taken level)

/-- A call takes a slot or frees one. -/
theorem slots_concat : slots level (calls ++ [made]) =
    (slots level calls ++ (made.taken level).toList.filter fun number =>
      !calls.any (StackCall.frees level number)).filter fun number =>
        !made.frees level number := by
  unfold slots
  rw [List.filterMap_append, ← List.filter_append, List.filter_filter]
  have parts : [made].filterMap (StackCall.taken level) = (made.taken level).toList := by
    cases taken : made.taken level <;> simp [taken]
  rw [parts]
  congr 1
  funext number
  simp only [List.any_append, List.any_cons, List.any_nil, Bool.or_false, Bool.not_or]
  exact Bool.and_comm _ _

/-- A call of another kind leaves the slots and the arrivals as they are. -/
theorem slots_of_silent (taken : made.taken level = none)
    (frees : ∀ number, made.frees level number = false) :
    slots level (calls ++ [made]) = slots level calls := by
  rw [slots_concat, taken]
  simp [frees]

/-- A call may be an arrival at a limit. -/
theorem arrived_concat : arrived level connection (calls ++ [made]) =
    arrived level connection calls + if made.arrives level connection then 1 else 0 := by
  unfold arrived
  rw [List.countP_append, List.countP_singleton]

/-- A call may take a slot. -/
theorem taken_concat : (calls ++ [made]).filterMap (StackCall.taken level) =
    calls.filterMap (StackCall.taken level) ++ (made.taken level).toList := by
  rw [List.filterMap_append]
  cases taken : made.taken level <;> simp [taken]

/-- A call is silent for the handlers when it is neither theirs nor a timer's. -/
def silent : StackCall Options Arguments → Bool
  | .publish _ | .completed _ | .cb _ | .destroy _ => true
  | _ => false

/-- A silent call is about no slot and no arrival. -/
structure Silent (made : StackCall Options Arguments) : Prop where
  taken : ∀ level, made.taken level = none
  frees : ∀ level number, made.frees level number = false
  arrives : ∀ level connection, made.arrives level connection = false
  callback : ∀ level answered, made ≠ .callback level answered
  timeout : ∀ level number, made ≠ .timeout level number
  decided : ∀ extensions calls, Decided extensions calls made

theorem silent_of_eq_true (quiet : silent made = true) : Silent made := by
  cases made with
  | publish _ | completed _ | cb _ | destroy _ =>
      exact ⟨fun _ => rfl, fun _ _ => rfl, fun _ _ => rfl, fun _ _ => nofun, fun _ _ => nofun,
        fun _ _ => trivial⟩
  | _ => cases quiet

/-- The handlers' variables stay, and a silent call is made. -/
theorem Limited.silent (limited : before.Limited extensions flight)
    (made : StackCall Options Arguments) (quiet : silent made = true)
    (same : after.decrement = before.decrement ∧ after.timers = before.timers ∧
      after.count = before.count ∧ after.messages = before.messages ∧
      after.connections = before.connections)
    (grown : after.calls = before.calls ++ [made])
    (fewer : ∀ target number, later = .sinking target number → flight = .sinking target number) :
    after.Limited extensions later := by
  have silent := silent_of_eq_true quiet
  obtain ⟨decrement, timers, count, messages, connections⟩ := same
  have slots (level : Nat) : slots level after.calls = slots level before.calls := by
    rw [grown]
    exact slots_of_silent (silent.taken level) (silent.frees level)
  have taken (level : Nat) : after.calls.filterMap (StackCall.taken level) =
      before.calls.filterMap (StackCall.taken level) := by
    rw [grown, taken_concat, silent.taken]
    exact List.append_nil _
  refine ⟨?_, ?_, ?_, ?_, ?_, ?_, ?_, ?_⟩
  · rw [grown]
    exact limited.decided.concat (silent.decided extensions before.calls)
  · intro level maxPublications kind
    rw [decrement, slots, count]
    exact limited.occupied level maxPublications kind
  · intro level
    rw [decrement, count]
    exact limited.count level
  · intro level maxMessages closeConn connection kind
    rw [messages, grown, arrived_concat, silent.arrives]
    exact limited.messages level maxMessages closeConn connection kind
  · intro pair member
    rw [timers] at member
    rw [slots, grown]
    refine ⟨(limited.timers pair member).1, fun inside => ?_⟩
    rcases mem_concat.mp inside with old | rfl
    · exact (limited.timers pair member).2 old
    · exact silent.timeout _ _ rfl
  · intro level answered member
    rw [grown] at member
    rcases mem_concat.mp member with old | rfl
    · rw [issued, grown, List.filterMap_append]
      exact List.mem_append_left _ (limited.called level answered old)
    · exact absurd rfl (silent.callback level answered)
  · intro level number member
    rw [taken] at member
    rw [connections]
    obtain ⟨known, below⟩ := limited.taken level number member
    exact ⟨known, fun target is => below target (fewer target number is)⟩
  · intro level number member
    rw [taken]
    rw [grown] at member
    rcases mem_concat.mp member with old | rfl
    · exact limited.timed level number old
    · exact absurd rfl (silent.timeout level number)

/-- A call of a callback takes its request out of the slots of its handler. -/
theorem slots_callback (level other : Nat) (answered : StackAnswer Arguments) :
    slots other (calls ++ [StackCall.callback level answered]) =
      (slots other calls).filter fun number => !(level == other && answered.number == number) := by
  rw [slots_concat]
  simp only [StackCall.taken, Option.toList_none, List.filter_nil, List.append_nil, StackCall.frees]

/-- A callback takes no slot. -/
theorem taken_callback (level other : Nat) (answered : StackAnswer Arguments) :
    (calls ++ [StackCall.callback level answered]).filterMap (StackCall.taken other) =
      calls.filterMap (StackCall.taken other) := by
  rw [taken_concat]
  exact List.append_nil _

/-- A callback is no arrival. -/
theorem arrived_callback (level other connection : Nat) (answered : StackAnswer Arguments) :
    arrived other connection (calls ++ [StackCall.callback level answered]) =
      arrived other connection calls := by
  rw [arrived_concat]
  rfl

/-- A slot is held from the call that takes it to the one that frees it. -/
theorem mem_slots {other : Nat} : number ∈ slots other calls ↔
    number ∈ calls.filterMap (StackCall.taken other) ∧
      calls.any (StackCall.frees other number) = false := by
  unfold slots
  rw [List.mem_filter, Bool.not_eq_true']

/-- The slots of a handler without the one of this request. -/
theorem erased_slots {pairs : List (Nat × Nat)} (nodup : pairs.Nodup) (level other number : Nat) :
    ((pairs.erase (level, number)).filter (·.1 = other)).map Prod.snd =
      ((pairs.filter (·.1 = other)).map Prod.snd).filter fun taken =>
        !(level == other && number == taken) := by
  rw [nodup.erase_eq_filter, List.filter_map, List.filter_filter, List.filter_filter]
  congr 1
  refine List.filter_congr fun pair _ => ?_
  obtain ⟨first, second⟩ := pair
  rw [Bool.eq_iff_iff]
  simp only [Function.comp, Bool.and_eq_true, decide_eq_true_eq, bne_iff_ne, ne_eq,
    Prod.mk.injEq, Bool.not_eq_true', Bool.and_eq_false_iff, beq_eq_false_iff_ne]
  omega

/-- One slot is taken out of the counters of its level. -/
theorem count_erase {pairs : List (Nat × Nat)} (pair : Nat × Nat) (other : Nat) :
    (((pairs.erase pair).countP (·.1 = other) : Nat) : Int) =
      (pairs.countP (·.1 = other) : Nat) - if other = pair.1 ∧ pair ∈ pairs then 1 else 0 := by
  by_cases member : pair ∈ pairs
  · have perm := (List.perm_cons_erase member).countP_eq (fun pair => decide (pair.1 = other))
    rw [List.countP_cons] at perm
    rw [perm]
    by_cases same : pair.1 = other
    · simp [same, member]
    · simp [same, Ne.symm same]
  · rw [List.erase_of_not_mem member]
    simp [member]

/-- The callback of a handler was called for a request with an answer. -/
structure Freed (level : Nat) (answered : StackAnswer Arguments)
    (before after : ExtensionStack Options Arguments) : Prop where
  grown : after.calls = before.calls ++ [.callback level answered]
  decrement : after.decrement = before.decrement.erase (level, answered.number)
  timers : after.timers = before.timers.erase (level, answered.number)
  connections : after.connections = before.connections
  messages : after.messages = before.messages
  count : ∀ other, after.count other = before.count other -
    if other = level ∧ (level, answered.number) ∈ before.decrement then 1 else 0

/-- A released slot is free. -/
theorem Released.freed (released : Released level answered before after) :
    Freed level answered before after := by
  have same := released.same
  exact ⟨by rw [same], by rw [same], by rw [same], by rw [same]; rfl, by rw [same], released.count⟩

/-- A callback that keeps its answer has neither a slot nor a timer. -/
theorem Delays.freed (delays : Delays extensions { level, answered } before after)
    (typed : before.Typed extensions) : Freed level answered before after := by
  have same := delays.same
  have absent : (level, answered.number) ∉ before.pairs := fun member =>
    typed.not_backoff member delays.kind
  have decrement : (level, answered.number) ∉ before.decrement := fun member =>
    absent (List.mem_append_left _ member)
  have timers : (level, answered.number) ∉ before.timers := fun member =>
    absent (List.mem_append_right _ member)
  refine ⟨by rw [same], ?_, ?_, by rw [same]; rfl, by rw [same], fun other => ?_⟩
  · rw [List.erase_of_not_mem decrement, same]
  · rw [List.erase_of_not_mem timers, same]
  · rw [if_neg fun both => decrement both.2, same]
    exact (Int.sub_zero _).symm

/-- A freed slot lowers the count of its level. -/
theorem Limited.freed (limited : before.Limited extensions flight)
    (nodup : before.decrement.Nodup ∧ before.timers.Nodup)
    (freed : Freed level answered before after)
    (given : answered ∈ before.issued answered.connection)
    (fewer : ∀ target number, later = .sinking target number → flight = .sinking target number) :
    after.Limited extensions later := by
  obtain ⟨grown, decrement, timers, connections, messages, count⟩ := freed
  refine ⟨?_, ?_, ?_, ?_, ?_, ?_, ?_, ?_⟩
  · rw [grown]
    exact limited.decided.concat trivial
  · intro other maxPublications kind
    obtain ⟨same, upper⟩ := limited.occupied other maxPublications kind
    rw [grown, decrement, slots_callback, erased_slots nodup.1, same]
    refine ⟨rfl, ?_⟩
    rw [count]
    split <;> omega
  · intro other
    rw [count, decrement, count_erase, limited.count]
  · intro other maxMessages closeConn connection kind
    rw [messages, grown, arrived_callback]
    exact limited.messages other maxMessages closeConn connection kind
  · intro pair member
    rw [timers] at member
    obtain ⟨different, old⟩ := nodup.2.mem_erase_iff.mp member
    obtain ⟨slot, silent⟩ := limited.timers pair old
    rw [grown, slots_callback]
    refine ⟨List.mem_filter.mpr ⟨slot, ?_⟩, fun inside => ?_⟩
    · rw [Bool.not_eq_true', Bool.and_eq_false_iff, beq_eq_false_iff_ne, beq_eq_false_iff_ne]
      by_contra both
      obtain ⟨one, two⟩ := not_or.mp both
      exact different (Prod.ext (not_not.mp one).symm (not_not.mp two).symm)
    · rcases mem_concat.mp inside with old | same
      · exact silent old
      · cases same
  · intro other answered member
    rw [grown] at member
    rw [issued, grown, List.filterMap_append]
    refine List.mem_append_left _ ?_
    rcases mem_concat.mp member with old | same
    · exact limited.called other answered old
    · obtain ⟨-, rfl⟩ := StackCall.callback.inj same
      exact given
  · intro other number member
    rw [grown, taken_callback] at member
    rw [connections]
    obtain ⟨known, below⟩ := limited.taken other number member
    exact ⟨known, fun target is => below target (fewer target number is)⟩
  · intro other number member
    rw [grown] at member
    rw [grown, taken_callback]
    rcases mem_concat.mp member with old | same
    · exact limited.timed other number old
    · cases same

/-- A handler that counts the requests of a connection counts those it gets. -/
theorem counts_eq {other maxMessages arrival : Nat} {closeConn : Bool}
    (kind : extensionAt extensions other = .limitConnPublishedMessages maxMessages closeConn) :
    (extensionAt extensions level).counts level arrival (other, connection) =
      if level == other && arrival == connection then 1 else 0 := by
  by_cases here : level = other
  · subst here
    rw [kind]
    by_cases same : arrival = connection
    · simp [PublishExtension.counts, same]
    · simp [PublishExtension.counts, same, Ne.symm same]
  · have apart : (level == other) = false := beq_false_of_ne here
    rw [apart]
    cases extensionAt extensions level <;> simp [PublishExtension.counts, Ne.symm here]

/-- A handler refuses a request at its limit. -/
theorem Limited.refused (limited : before.Limited extensions flight)
    (refused : Refused (extensionAt extensions level) level request answered before after)
    (fewer : ∀ target number, later = .sinking target number → flight = .sinking target number) :
    after.Limited extensions later := by
  have same := refused.same
  have grown : after.calls = before.calls ++ [.refused level request answered] := by rw [same]
  have slots (other : Nat) : slots other after.calls = slots other before.calls := by
    rw [grown]
    exact slots_of_silent rfl fun _ => rfl
  have taken (other : Nat) : after.calls.filterMap (StackCall.taken other) =
      before.calls.filterMap (StackCall.taken other) := by
    rw [grown, taken_concat]
    exact List.append_nil _
  refine ⟨?_, ?_, ?_, ?_, ?_, ?_, ?_, ?_⟩
  · rw [grown]
    apply limited.decided.concat
    have full := refused.full
    simp only [Decided]
    cases kind : extensionAt extensions level with
    | limitActivePublications maxPublications =>
        rw [kind] at full
        obtain ⟨same, upper⟩ := limited.occupied level maxPublications kind
        have count := limited.count level
        rw [List.countP_eq_length_filter, ← List.length_map (f := Prod.snd), same] at count
        dsimp only [PublishExtension.Full] at full ⊢
        omega
    | limitConnPublishedMessages maxMessages closeConn =>
        rw [kind] at full
        have messages := limited.messages level maxMessages closeConn request.connection kind
        dsimp only [PublishExtension.Full] at full ⊢
        omega
    | _ =>
        rw [kind] at full
        exact full
  · intro other maxPublications kind
    rw [slots, same]
    exact limited.occupied other maxPublications kind
  · intro other
    rw [same]
    exact limited.count other
  · intro other maxMessages closeConn connection kind
    rw [refused.messages, grown, arrived_concat,
      limited.messages other maxMessages closeConn connection kind]
    rw [counts_eq kind]
    rfl
  · intro pair member
    rw [same] at member
    rw [slots, grown]
    refine ⟨(limited.timers pair member).1, fun inside => ?_⟩
    rcases mem_concat.mp inside with old | new
    · exact (limited.timers pair member).2 old
    · cases new
  · intro other answered member
    rw [grown] at member
    rw [issued, grown, List.filterMap_append]
    rcases mem_concat.mp member with old | new
    · exact List.mem_append_left _ (limited.called other answered old)
    · cases new
  · intro other number member
    rw [taken] at member
    obtain ⟨known, below⟩ := limited.taken other number member
    refine ⟨?_, fun target is => below target (fewer target number is)⟩
    rw [same]
    exact known
  · intro other number member
    rw [taken]
    rw [grown] at member
    rcases mem_concat.mp member with old | new
    · exact limited.timed other number old
    · cases new

/-- A handler passes a request on below its limit. -/
theorem Limited.passed
    (limited : before.Limited extensions (.sinking level request.stream.number))
    (sinks : before.Sinks extensions level request)
    (passes : Onward (extensionAt extensions level) level request onward before after) :
    after.Limited extensions (.sinking (level + 1) onward.stream.number) := by
  have same := passes.same
  have grown : after.calls = before.calls ++ [.next level request] := by rw [same]
  have number : onward.stream.number = request.stream.number := by rw [passes.wrapped]; rfl
  have unfreed (other : Nat) :
      before.calls.any (StackCall.frees other request.stream.number) = false := by
    rw [List.any_eq_false]
    intro made member frees
    cases made with
    | callback source answered =>
        simp only [StackCall.frees, Bool.and_eq_true, beq_iff_eq] at frees
        exact sinks.fresh _ answered (limited.called source answered member) frees.2
    | _ => cases frees
  have untimed : .timeout level request.stream.number ∉ before.calls := fun member =>
    Nat.lt_irrefl _ ((limited.taken level _ (limited.timed level _ member)).2 level rfl)
  have slots (other : Nat) : slots other after.calls = slots other before.calls ++
      if level = other then [request.stream.number] else [] := by
    rw [grown, slots_concat]
    simp only [StackCall.taken]
    split
    · simp [unfreed, StackCall.frees]
    · simp [StackCall.frees]
  have taken (other : Nat) : after.calls.filterMap (StackCall.taken other) =
      before.calls.filterMap (StackCall.taken other) ++
        if level = other then [request.stream.number] else [] := by
    rw [grown, taken_concat]
    simp only [StackCall.taken]
    split <;> rfl
  refine ⟨?_, ?_, ?_, ?_, ?_, ?_, ?_, ?_⟩
  · rw [grown]
    apply limited.decided.concat
    have room := passes.room
    simp only [Decided]
    cases kind : extensionAt extensions level with
    | limitActivePublications maxPublications =>
        rw [kind] at room
        obtain ⟨same, -⟩ := limited.occupied level maxPublications kind
        have count := limited.count level
        rw [List.countP_eq_length_filter, ← List.length_map (f := Prod.snd), same] at count
        dsimp only [PublishExtension.Full] at room ⊢
        omega
    | limitConnPublishedMessages maxMessages closeConn =>
        rw [kind] at room
        have messages := limited.messages level maxMessages closeConn request.connection kind
        dsimp only [PublishExtension.Full] at room ⊢
        omega
    | _ => trivial
  · intro other maxPublications kind
    obtain ⟨old, upper⟩ := limited.occupied other maxPublications kind
    rw [slots, passes.count]
    have acquired : after.decrement = before.decrement ++
        (extensionAt extensions level).acquired level request.stream.number := by rw [same]
    rw [acquired, List.filter_append, List.map_append, old]
    by_cases here : level = other
    · subst here
      have room := passes.room
      rw [kind] at room ⊢
      refine ⟨by simp [PublishExtension.acquired], ?_⟩
      dsimp only [PublishExtension.Full] at room
      simp only [PublishExtension.acquired, List.countP_singleton, decide_true, if_true]
      omega
    · have none : ((extensionAt extensions level).acquired level request.stream.number).filter
          (·.1 = other) = [] := by
        cases extensionAt extensions level <;> simp [PublishExtension.acquired, here]
      rw [List.countP_eq_length_filter, none, if_neg here]
      simpa using upper
  · intro other
    rw [passes.count, limited.count, same, List.countP_append]
    exact Int.natCast_add _ _
  · intro other maxMessages closeConn connection kind
    rw [passes.messages, grown, arrived_concat,
      limited.messages other maxMessages closeConn connection kind]
    rw [counts_eq kind]
    rfl
  · intro pair member
    have grownTimers : after.timers = before.timers ++
        (extensionAt extensions level).started level request.stream.number := by rw [same]
    rw [grownTimers] at member
    rw [slots, grown]
    rcases List.mem_append.mp member with old | new
    · obtain ⟨slot, silent⟩ := limited.timers pair old
      refine ⟨List.mem_append_left _ slot, fun inside => ?_⟩
      rcases mem_concat.mp inside with old | new
      · exact silent old
      · cases new
    · obtain rfl := pair_eq (Or.inr new)
      refine ⟨by simp, fun inside => ?_⟩
      rcases mem_concat.mp inside with old | new
      · exact untimed old
      · cases new
  · intro other answered member
    rw [grown] at member
    rw [issued, grown, List.filterMap_append]
    rcases mem_concat.mp member with old | new
    · exact List.mem_append_left _ (limited.called other answered old)
    · cases new
  · intro other number' member
    rw [taken] at member
    have connections : after.connections = before.connections := by rw [same]; rfl
    rw [connections]
    rcases List.mem_append.mp member with old | new
    · obtain ⟨known, below⟩ := limited.taken other number' old
      refine ⟨known, fun target is => ?_⟩
      obtain ⟨rfl, rfl⟩ := Flight.sinking.inj is
      exact Nat.lt_succ_of_lt (below level (by rw [number]))
    · split at new
      · next here =>
          obtain rfl := List.mem_singleton.mp new
          refine ⟨(List.getElem?_eq_some_iff.mp sinks.known).1, fun target is => ?_⟩
          obtain ⟨rfl, -⟩ := Flight.sinking.inj is
          exact here ▸ Nat.lt_succ_self level
      · cases new
  · intro other number' member
    rw [taken]
    rw [grown] at member
    rcases mem_concat.mp member with old | new
    · exact List.mem_append_left _ (limited.timed other number' old)
    · cases new

/-- The answers are kept, and the handlers keep to their limits. -/
structure Orderly (extensions : List PublishExtension) (flight : Flight Arguments)
    (state : ExtensionStack Options Arguments) : Prop where
  kept : state.Kept extensions flight
  limited : state.Limited extensions flight

/-- An answer on its way up was issued. -/
theorem Kept.rising_issued (kept : state.Kept extensions (.rising level answered)) :
    answered ∈ state.issued answered.connection := by
  apply (kept.split answered.connection).subset
  rw [Flight.flying_rising]
  simp [StackAnswer.onConnection]

/-- An answer on its way up keeps the limits in order. -/
theorem Orderly.answer (orderly : state.Orderly extensions (.rising level answered)) :
    (state.answer extensions level answered).Orderly extensions .settled := by
  refine Layer.ascend_rule
    (fun level answered state => Orderly extensions (.rising level answered) state)
    (Orderly extensions .settled) ?_ ?_ ?_ orderly
  · intro answered state orderly
    exact ⟨orderly.kept.cb, orderly.limited.silent (.cb answered) rfl
      ⟨rfl, rfl, rfl, rfl, rfl⟩ rfl nofun⟩
  · intro level answered state next orderly answers
    have kept := orderly.kept
    have delays := delays_of_answer answers
    exact ⟨kept.delays delays, orderly.limited.freed kept.nodup (delays.freed kept.typed)
      kept.rising_issued nofun⟩
  · intro level answered state next passed orderly answers
    have kept := orderly.kept
    obtain ⟨rfl, released⟩ := released_of_answer kept.typed answers
    exact ⟨kept.released released, orderly.limited.freed kept.nodup released.freed
      kept.rising_issued nofun⟩

/-- A request keeps the limits in order. -/
theorem Orderly.publish (orderly : state.Orderly extensions .settled)
    (number : request.stream.number = state.requests.length) :
    (state.publish extensions request).Orderly extensions .settled := by
  refine Layer.descend_rule
    (fun level answered state => Orderly extensions (.rising level answered) state)
    (fun level request state => Sinks extensions level request state ∧
      Limited extensions (.sinking level request.stream.number) state)
    (Orderly extensions .settled) extensions.length ?_ ?_ ?_
    (fun _ _ _ orderly => orderly.answer) ?_ (Nat.zero_add _) ⟨orderly.kept.sinks number, ?_⟩
  · intro request state both
    exact ⟨both.1.published,
      both.2.silent (.publish request) rfl ⟨rfl, rfl, rfl, rfl, rfl⟩ rfl nofun⟩
  · intro level request state next answered _ both refuses
    have refused := refused_of_request refuses
    exact ⟨both.1.refused refused, both.2.refused refused nofun⟩
  · intro level request state orderly
    change Orderly extensions .settled (state.afterRefusal request (extensionAt extensions level))
    refine ⟨orderly.kept.afterRefusal request _, ?_⟩
    unfold ExtensionStack.afterRefusal
    split
    · exact orderly.limited.silent (.destroy request.connection) rfl
        ⟨rfl, rfl, rfl, rfl, rfl⟩ rfl nofun
    · exact orderly.limited
  · intro level request state next passed _ both passes
    have onward := onward_of_request passes
    exact ⟨both.1.passed onward, both.2.passed both.1 onward⟩
  · have limited := orderly.limited
    refine ⟨limited.decided, limited.occupied, limited.count, limited.messages, limited.timers,
      limited.called, fun level taken member => ?_, limited.timed⟩
    have known := (limited.taken level taken member).1
    refine ⟨?_, fun target is => ?_⟩
    · unfold ExtensionStack.connections at known ⊢
      simp only [List.length_map, List.length_append] at known ⊢
      omega
    · obtain ⟨-, same⟩ := Flight.sinking.inj is
      rw [ExtensionStack.connections, List.length_map] at known
      omega

/-- The variables that the limits are about stay. -/
theorem Limited.same (limited : before.Limited extensions .settled)
    (same : after.decrement = before.decrement ∧ after.timers = before.timers ∧
      after.count = before.count ∧ after.messages = before.messages ∧
      after.connections = before.connections ∧ after.calls = before.calls)
    (fewer : ∀ target number, later ≠ .sinking target number) : after.Limited extensions later := by
  obtain ⟨decrement, timers, count, messages, connections, calls⟩ := same
  refine ⟨?_, ?_, ?_, ?_, ?_, ?_, ?_, ?_⟩
  · rw [calls]
    exact limited.decided
  · rw [decrement, count, calls]
    exact limited.occupied
  · rw [decrement, count]
    exact limited.count
  · rw [messages, calls]
    exact limited.messages
  · rw [timers, calls]
    exact limited.timers
  · unfold issued
    rw [calls]
    exact limited.called
  · rw [calls, connections]
    exact fun level number member =>
      ⟨(limited.taken level number member).1, fun target is => absurd is (fewer target number)⟩
  · rw [calls]
    exact limited.timed

/-- A released listener keeps the limits in order. -/
theorem Orderly.release (orderly : state.Orderly extensions .settled) {emitter : Emitter Nat}
    {listeners : List Nat} {boProp : Nat → Bool}
    (elsewhere : Elsewhere connection state.boProp boProp)
    (waiting : emitter.waiting = (state.drain connection).waiting)
    (covered : boProp connection = false → (emitter.advance listeners).2.Covered) :
    ({ state with boProp }.release extensions connection (emitter.advance listeners)).Orderly
      extensions .settled := by
  have limited := orderly.limited
  rcases orderly.kept.release_cases elsewhere waiting covered with
    ⟨same, kept⟩ | ⟨delayed, same, kept⟩
  · rw [same]
    exact ⟨kept, limited.same ⟨rfl, rfl, rfl, rfl, rfl, rfl⟩ fun _ _ => nofun⟩
  · rw [same]
    apply Orderly.answer
    exact ⟨kept, limited.same ⟨rfl, rfl, rfl, rfl, rfl, rfl⟩ fun _ _ => nofun⟩

/-- A timer goes while it is pending. -/
theorem Limited.timeout (limited : state.Limited extensions .settled) {timer : Nat}
    (nodup : state.timers.Nodup) (found : state.timers[timer]? = some (level, number)) :
    ({ state with timers := state.timers.eraseIdx timer }.call (.timeout level number)).Limited
      extensions .settled := by
  have slots (other : Nat) : slots other (state.calls ++ [StackCall.timeout level number]) =
      slots other state.calls := slots_of_silent rfl fun _ => rfl
  have taken (other : Nat) : (state.calls ++ [StackCall.timeout level number]).filterMap
      (StackCall.taken other) = state.calls.filterMap (StackCall.taken other) := by
    rw [taken_concat]
    exact List.append_nil _
  obtain ⟨slot, fresh⟩ := limited.timers _ (List.mem_of_getElem? found)
  have left : ∀ pair ∈ state.timers.eraseIdx timer,
      pair ∈ state.timers ∧ pair ≠ (level, number) := by
    obtain ⟨front, back, shape, erased, -⟩ := exists_split found
    intro pair member
    rw [erased] at member
    rw [shape] at nodup ⊢
    have apart := List.nodup_middle.mp nodup
    refine ⟨?_, fun same => (List.nodup_cons.mp apart).1 (same ▸ member)⟩
    rcases List.mem_append.mp member with early | late
    · exact List.mem_append_left _ early
    · exact List.mem_append_right _ (List.mem_cons_of_mem _ late)
  refine ⟨limited.decided.concat ⟨slot, fresh⟩, ?_, limited.count, ?_, ?_, ?_, ?_, ?_⟩
  · intro other maxPublications kind
    refine ⟨?_, (limited.occupied other maxPublications kind).2⟩
    exact (limited.occupied other maxPublications kind).1.trans (slots other).symm
  · intro other maxMessages closeConn connection kind
    have same : arrived other connection (state.calls ++ [StackCall.timeout level number]) =
        arrived other connection state.calls := by
      rw [arrived_concat]
      rfl
    exact (limited.messages other maxMessages closeConn connection kind).trans same.symm
  · intro pair member
    obtain ⟨old, different⟩ := left pair member
    obtain ⟨slot, silent⟩ := limited.timers pair old
    refine ⟨(slots pair.1).symm ▸ slot, fun inside => ?_⟩
    rcases mem_concat.mp inside with old | same
    · exact silent old
    · obtain ⟨one, two⟩ := StackCall.timeout.inj same
      exact different (Prod.ext one two)
  · intro other answered member
    rw [issued, call, List.filterMap_append]
    refine List.mem_append_left _ ?_
    rcases mem_concat.mp member with old | same
    · exact limited.called other answered old
    · cases same
  · intro other number member
    exact limited.taken other number (taken other ▸ member)
  · intro other number member
    refine (taken other).symm ▸ ?_
    rcases mem_concat.mp member with old | same
    · exact limited.timed other number old
    · obtain ⟨rfl, rfl⟩ := StackCall.timeout.inj same
      exact (mem_slots.mp slot).1

/-- A step keeps the limits in order. -/
theorem Orderly.step {event : Event Options Arguments}
    (orderly : before.Orderly extensions .settled)
    (stepped : ExtensionStack.step extensions before event = some after) :
    after.Orderly extensions .settled := by
  have kept := orderly.kept
  have limited := orderly.limited
  cases event with
  | publish connection topic options =>
      obtain rfl := Option.some.inj stepped
      exact orderly.publish rfl
  | completed published arguments =>
      obtain ⟨⟨number, connection⟩, found, rfl⟩ := Option.map_eq_some_iff.mp stepped
      have known := kept.published _ (List.mem_of_getElem? found)
      apply Orderly.answer
      exact ⟨kept.completed known,
        limited.silent (.completed _) rfl ⟨rfl, rfl, rfl, rfl, rfl⟩ rfl nofun⟩
  | backoff connection =>
      simp only [ExtensionStack.step] at stepped
      split at stepped <;> obtain rfl := Option.some.inj stepped
      · exact ⟨kept.backoff connection,
          limited.same ⟨rfl, rfl, rfl, rfl, rfl, rfl⟩ fun _ _ => nofun⟩
      · exact orderly
  | drain connection =>
      obtain rfl := Option.some.inj stepped
      refine orderly.release (fun other different => Function.update_of_ne different ..) rfl
        fun _ => ?_
      exact Emitter.covered_advance (kept.waits.nodup connection) (Or.inr fun _ => id)
  | returned connection =>
      obtain ⟨called, resumes, rfl⟩ := Option.map_eq_some_iff.mp stepped
      have covered (calm : before.boProp connection = false) : called.2.Covered :=
        Emitter.covered_resume (kept.waits.nodup connection) (kept.waits.covered connection calm)
          resumes
      obtain ⟨rest, emissions, -, rfl⟩ := Emitter.resume_eq_some resumes
      exact orderly.release (fun _ _ => rfl) rfl covered
  | timeout timer =>
      obtain ⟨⟨level, number⟩, found, rfl⟩ := Option.map_eq_some_iff.mp stepped
      exact ⟨kept.timeout timer level number, limited.timeout kept.nodup.2 found⟩

end ExtensionStack
end Centro
