import Centro.Proof.HttpExchange.Done

namespace Centro

open Library

/-- A callback of the client is outstanding. -/
def ExchangeStage.Pending (stage : ExchangeStage) : Prop :=
  stage = .connecting ∨ stage = .publishing ∨ ∃ topics, stage = .subscribing topics

namespace HttpExchange

/-- A step starts the client, waits for a callback, settles the request with `done`, handles the
last subscription, writes to the response, is told of its end or its close, or does nothing for the
response. -/
inductive Moved (request : HttpRequest) (before : HttpExchange) : Event → HttpExchange → Prop
  | started {throws : Bool} (stage : before.stage = .authorizing) :
      Moved request before (.authorized none throws)
        { before with left := some .opened, stage := .connecting }
  | ready {errors : JsString} {throws : Bool} {stage : ExchangeStage}
      (connecting : before.stage = .connecting)
      (waits : stage = .publishing ∨ ∃ topics, stage = .subscribing topics) :
      Moved request before (.ready errors throws) { before with stage }
  | acked {throws : Bool} {topics : Nat} (subscribing : before.stage = .subscribing topics) :
      Moved request before (.subscribed false throws) { before with acked := before.acked + 1 }
  | settled {event : Event} {stage : ExchangeStage} {left : Option LeftStage}
      {after : HttpExchange}
      (stages : stage = before.stage ∨ stage = .finished ∧ before.stage ≠ .subscribed)
      (lefts : left = before.left ∨ left = some .destroyed)
      (done : Settled { before with stage, left } after) : Moved request before event after
  | subscribed {throws : Bool} {topics : Nat} (subscribing : before.stage = .subscribing topics)
      (last : topics ≤ before.acked + 1) :
      Moved request before (.subscribed false throws)
        ({ before with acked := before.acked + 1, stage := .subscribed }.subscribed
          request.options throws)
  | message {move : SseMove} {sse : Sse} {write : SseWrite} (handling : before.handling = true) :
      Moved request before (.message move)
        { before with sse, response := before.response.write write }
  | keepAlive (alive : before.sseInterval = true) :
      Moved request before .keepAlive
        { before with response := before.response.write .keepAlive }
  | closes {event : Event} {timeout closed : Bool}
      (isOver : (before.response.ended || closed) = true) :
      Moved request before event ({ before with
        timeout, response := { before.response with closed } }.onclose request.options)
  | quiet {event : Event} {left : Option LeftStage} {timeout : Bool}
      (lefts : left = before.left ∨ left = some .destroyed) :
      Moved request before event { before with left, timeout }

variable {request : HttpRequest} {before after : HttpExchange}

/-- A message finds a handler while a subscription is outstanding or after one has succeeded. -/
theorem handling_iff {exchange : HttpExchange} : exchange.handling = true ↔
    (∃ topics, exchange.stage = .subscribing topics) ∨ exchange.acked ≠ 0 := by
  rw [handling]
  split
  · next topics subscribing => exact iff_of_true rfl (Or.inl ⟨topics, subscribing⟩)
  · next other =>
      rw [decide_eq_true_eq]
      exact ⟨Or.inr, fun handling => handling.resolve_left fun subscribing =>
        other subscribing.choose subscribing.choose_spec⟩

/-- Each move of a message writes an event. -/
theorem event_of_move {sse : Sse} {move : SseMove} {next : Sse × SseWrite}
    (moved : sse.step move = some next) : (HttpOutput.sse next.2).IsEvent := by
  cases move with
  | handler info =>
      obtain rfl := Option.some.inj moved
      trivial
  | transform index chunk =>
      obtain ⟨message, -, moved⟩ := Option.bind_eq_some_iff.mp moved
      split at moved
      · cases moved
      · obtain rfl := Option.some.inj moved
        trivial
  | finish index =>
      obtain ⟨message, -, moved⟩ := Option.bind_eq_some_iff.mp moved
      split at moved
      · cases moved
      · obtain rfl := Option.some.inj moved
        trivial
  | error index =>
      obtain ⟨message, -, moved⟩ := Option.bind_eq_some_iff.mp moved
      obtain rfl := Option.some.inj moved
      trivial

/-- A subscription that succeeds is followed by the next one, or it was the last. -/
theorem subscribed_step {throws : Bool}
    (stepped : (system request).step before (.subscribed false throws) = some after) :
    ∃ topics, before.stage = .subscribing topics ∧
      (before.acked + 1 < topics ∧ after = { before with acked := before.acked + 1 } ∨
        topics ≤ before.acked + 1 ∧
          after = { before with acked := before.acked + 1, stage := .subscribed }.subscribed
            request.options throws) := by
  simp only [system, step] at stepped
  split at stepped
  · next topics subscribing =>
      refine ⟨topics, subscribing, ?_⟩
      rw [if_neg (by decide)] at stepped
      split at stepped
      · next more =>
          obtain rfl := Option.some.inj stepped
          exact Or.inl ⟨more, rfl⟩
      · next last =>
          obtain rfl := Option.some.inj stepped
          exact Or.inr ⟨Nat.le_of_not_lt last, rfl⟩
  · cases stepped

/-- A message puts an event out, after a default head where nothing was sent before. -/
theorem message_step {move : SseMove}
    (stepped : (system request).step before (.message move) = some after)
    (going : before.response.isOver = false) (unsent : before.response.headersSent = false) :
    ∃ write, (HttpOutput.sse write).IsEvent ∧ after.response.output =
      before.response.output ++ [.defaultHead before.response.headers, .sse write] := by
  simp only [system, step] at stepped
  split at stepped
  · obtain ⟨next, moved, rfl⟩ := Option.map_eq_some_iff.mp stepped
    refine ⟨next.2, event_of_move moved, ?_⟩
    simp [HttpResponse.write, HttpResponse.send, going, unsent]
  · cases stepped

/-- These are all cases of a step. -/
theorem moved_of_step {event : Event} (stepped : (system request).step before event = some after) :
    Moved request before event after := by
  cases event with
  | authorized error throws =>
      simp only [system, step] at stepped
      split at stepped
      · next authorizing =>
          cases error with
          | none =>
              obtain rfl := Option.some.inj stepped
              exact .started authorizing
          | some error =>
              obtain rfl := Option.some.inj stepped
              exact .settled (Or.inr ⟨rfl, by simp [authorizing]⟩) (Or.inl rfl) (done_settled _ rfl)
      · cases stepped
  | cancelled throws =>
      simp only [system, step] at stepped
      split at stepped
      · next authorizing =>
          obtain rfl := Option.some.inj stepped
          exact .settled (Or.inr ⟨rfl, by simp [authorizing]⟩) (Or.inl rfl) (done_settled _ rfl)
      · cases stepped
  | ready errors throws =>
      simp only [system, step] at stepped
      split at stepped
      · next connecting =>
          split at stepped
          · next stage waits =>
              obtain rfl := Option.some.inj stepped
              refine .ready connecting ?_
              split at waits
              · obtain ⟨topics, -, rfl⟩ := Option.map_eq_some_iff.mp waits
                exact Or.inr ⟨_, rfl⟩
              · obtain ⟨topic, -, rfl⟩ := Option.map_eq_some_iff.mp waits
                exact Or.inl rfl
          · obtain rfl := Option.some.inj stepped
            exact .settled (Or.inr ⟨rfl, by simp [connecting]⟩) (Or.inl rfl) (done_settled _ rfl)
      · cases stepped
  | published failed throws =>
      simp only [system, step] at stepped
      split at stepped
      · next publishing =>
          obtain rfl := Option.some.inj stepped
          refine .settled (Or.inr ⟨rfl, by simp [publishing]⟩) (Or.inl rfl) ?_
          split
          · exact done_settled _ rfl
          · exact done_settled _ rfl
      · cases stepped
  | subscribed failed throws =>
      cases failed with
      | true =>
          simp only [system, step] at stepped
          split at stepped
          · next topics subscribing =>
              obtain rfl := Option.some.inj stepped
              exact .settled (Or.inr ⟨rfl, by simp [subscribing]⟩) (Or.inl rfl)
                (done_settled _ rfl)
          · cases stepped
      | false =>
          obtain ⟨topics, subscribing, ⟨-, rfl⟩ | ⟨last, rfl⟩⟩ := subscribed_step stepped
          · exact .acked subscribing
          · exact .subscribed subscribing last
  | message move =>
      simp only [system, step] at stepped
      split at stepped
      · next handling =>
          obtain ⟨next, -, rfl⟩ := Option.map_eq_some_iff.mp stepped
          exact .message handling
      · cases stepped
  | keepAlive =>
      simp only [system, step] at stepped
      split at stepped
      · next alive =>
          obtain rfl := Option.some.inj stepped
          exact .keepAlive alive
      · cases stepped
  | clientError duplex throws =>
      simp only [system, step] at stepped
      split at stepped
      · cases stepped
      · split at stepped
        · obtain rfl := Option.some.inj stepped
          exact .quiet (Or.inl rfl)
        · obtain rfl := Option.some.inj stepped
          exact .settled (Or.inl rfl) (Or.inl rfl) (done_settled _ rfl)
  | destroyed throws =>
      simp only [system, step] at stepped
      split at stepped
      · cases stepped
      · obtain rfl := Option.some.inj stepped
        exact .settled (Or.inl rfl) (Or.inl rfl) (done_settled _ rfl)
  | leftClosed throws =>
      simp only [system, step] at stepped
      split at stepped
      · cases stepped
      · obtain rfl := Option.some.inj stepped
        exact .settled (Or.inl rfl) (Or.inr rfl) (done_settled _ rfl)
  | prefinish =>
      simp only [system, step] at stepped
      split at stepped
      · next ended =>
          obtain rfl := Option.some.inj stepped
          exact .closes (by rw [ended]; rfl)
      · cases stepped
  | close =>
      simp only [system, step] at stepped
      split at stepped
      · cases stepped
      · obtain rfl := Option.some.inj stepped
        exact .closes (Bool.or_true _)
  | tick =>
      simp only [system, step] at stepped
      split at stepped
      · obtain rfl := Option.some.inj stepped
        exact .quiet (Or.inr rfl)
      · cases stepped
  | timeout =>
      simp only [system, step] at stepped
      split at stepped
      · obtain rfl := Option.some.inj stepped
        exact .quiet (Or.inl rfl)
      · cases stepped

/-- A listener that hears of the close makes the destruction of `left` due. -/
theorem onclose_eq (options : HttpOptions) (exchange : HttpExchange) :
    exchange.onclose options =
      if exchange.listening then { exchange.destroyLeft with closed := true, sseInterval := false }
      else { exchange with closed := true } := rfl

/-- The variables of the request agree with its response in every run. -/
structure Base (exchange : HttpExchange) : Prop where
  closed : exchange.closed = exchange.response.isOver
  written : exchange.headersWritten = true → exchange.closed = true ∨ exchange.stage = .subscribed
  listening : exchange.listening = true → exchange.stage = .subscribed
  interval : exchange.sseInterval = true → exchange.listening = true
  acked : exchange.acked ≠ 0 → (∃ topics, exchange.stage = .subscribing topics) ∨
    exchange.stage = .subscribed ∨ exchange.stage = .finished

theorem Base.initial : Base {} where
  closed := rfl
  written := by intro written; cases written
  listening := by intro listening; cases listening
  interval := by intro interval; cases interval
  acked := fun acked => absurd rfl acked

/-- A settled request keeps its variables in agreement. -/
theorem Base.settled {stage : ExchangeStage} {left : Option LeftStage} (base : before.Base)
    (stages : stage = before.stage ∨ stage = .finished ∧ before.stage ≠ .subscribed)
    (done : Settled { before with stage, left } after) : after.Base where
  closed := done.isOver base.closed
  written := by
    intro written
    obtain earlier | closed := done.written written
    · obtain closed | subscribed := base.written earlier
      · exact Or.inl (done.closed closed)
      · obtain rfl | ⟨-, other⟩ := stages
        · exact Or.inr (done.stage.trans subscribed)
        · exact absurd subscribed other
    · exact Or.inl closed
  listening := by
    intro listening
    have subscribed := base.listening (done.listening.symm.trans listening)
    obtain rfl | ⟨-, other⟩ := stages
    · exact done.stage.trans subscribed
    · exact absurd subscribed other
  interval := by
    intro interval
    rw [done.sseInterval] at interval
    cases interval
  acked := by
    intro acked
    rw [done.acked] at acked
    rw [done.stage]
    obtain rfl | ⟨rfl, -⟩ := stages
    · exact base.acked acked
    · exact Or.inr (Or.inr rfl)

/-- A request that goes on to wait has neither listeners nor a head. -/
theorem Base.waits {stage : ExchangeStage} {left : Option LeftStage} {acked : Nat}
    (base : before.Base) (other : before.stage ≠ .subscribed)
    (acks : acked ≠ 0 → ∃ topics, stage = .subscribing topics) :
    Base { before with left, stage, acked } where
  closed := base.closed
  written written := Or.inl ((base.written written).resolve_right other)
  listening listening := absurd (base.listening listening) other
  interval := base.interval
  acked acked := Or.inl (acks acked)

/-- The last subscription keeps the variables in agreement. -/
theorem Base.subscribed {throws : Bool} {topics : Nat} (base : before.Base)
    (subscribing : before.stage = .subscribing topics) :
    Base ({ before with acked := before.acked + 1, stage := .subscribed }.subscribed
      request.options throws) := by
  have silent : before.sseInterval = true → False := by
    intro interval
    have subscribed := base.listening (base.interval interval)
    rw [subscribing] at subscribed
    cases subscribed
  obtain ⟨closed, shape⟩ | ⟨going, -, headers, shape⟩ | ⟨going, -, -, response, same, -, -, shape⟩ :=
    subscribed_cases request.options throws
      { before with acked := before.acked + 1, stage := .subscribed }
  · rw [shape]
    exact ⟨base.closed, fun _ => Or.inr rfl, fun _ => rfl, fun interval => (by cases interval),
      fun _ => Or.inr (Or.inl rfl)⟩
  · rw [shape]
    exact ⟨(HttpResponse.finish_over _ _).symm, fun _ => Or.inl rfl, fun _ => rfl,
      fun interval => (by cases interval), fun _ => Or.inr (Or.inl rfl)⟩
  · rw [shape]
    refine ⟨?_, fun _ => Or.inr rfl, fun _ => rfl, fun _ => rfl, fun _ => Or.inr (Or.inl rfl)⟩
    rw [HttpResponse.write_over, same]
    exact base.closed

/-- The last subscription of a request whose response is over only settles it. -/
theorem subscribed_over (options : HttpOptions) (throws : Bool) {exchange : HttpExchange}
    (closed : exchange.closed = true) : exchange.subscribed options throws =
      { exchange.destroyLeft with sseInterval := false } := by
  obtain ⟨-, shape⟩ | ⟨going, -⟩ | ⟨going, -⟩ := subscribed_cases options throws exchange
  · exact shape
  · rw [closed] at going
    cases going
  · rw [closed] at going
    cases going

/-- The last subscription of a request begins the stream when nothing was sent before. -/
theorem Base.opens {topics : Nat} (base : before.Base)
    (subscribing : before.stage = .subscribing topics) (going : before.closed = false)
    (unsent : before.response.headersSent = false) :
    ∃ response : HttpResponse, response.isOver = false ∧ response.Fresh ∧
      (∃ headers, response.output =
        before.response.output ++ [.head 200 (headers ++ sseHeaders request.options)]) ∧
      { before with acked := before.acked + 1, stage := .subscribed }.subscribed
          request.options false =
        { before with
          acked := before.acked + 1
          stage := .subscribed
          headersWritten := true
          listening := true
          response := response.write .ok
          sseInterval := request.options.sseKeepAliveInterval } := by
  obtain ⟨closed, -⟩ | ⟨-, blocked, -⟩ | ⟨-, -, -, response, same, sent, output, shape⟩ :=
    subscribed_cases request.options false
      { before with acked := before.acked + 1, stage := .subscribed }
  · exact absurd closed (by simp [going])
  · exfalso
    obtain written | sent | throwing := blocked
    · obtain closed | subscribed := base.written written
      · exact absurd closed (by simp [going])
      · rw [subscribing] at subscribed
        cases subscribed
    · exact absurd sent (by simp [unsent])
    · cases throwing
  · have fresh : response.Fresh := fun unsent => absurd sent (by simp [unsent])
    exact ⟨response, same.trans (base.closed.symm.trans going), fresh, output, shape⟩

/-- A step keeps the variables in agreement. -/
theorem base_step {event : Event} (base : before.Base)
    (stepped : (system request).step before event = some after) : after.Base := by
  cases moved_of_step stepped with
  | started authorizing =>
      refine base.waits (by simp [authorizing]) fun acked => ?_
      simpa [authorizing] using base.acked acked
  | ready connecting waits =>
      refine base.waits (by simp [connecting]) fun acked => ?_
      simpa [connecting] using base.acked acked
  | acked subscribing => exact base.waits (by simp [subscribing]) fun _ => ⟨_, subscribing⟩
  | settled stages lefts done => exact base.settled stages done
  | subscribed subscribing last => exact base.subscribed subscribing
  | message handling =>
      exact ⟨base.closed.trans (HttpResponse.write_over _ _).symm, base.written, base.listening,
        base.interval, base.acked⟩
  | keepAlive alive =>
      exact ⟨base.closed.trans (HttpResponse.write_over _ _).symm, base.written, base.listening,
        base.interval, base.acked⟩
  | closes isOver =>
      rw [onclose_eq]
      split
      · exact ⟨isOver.symm, fun _ => Or.inl rfl, base.listening, fun interval => (by cases interval),
          base.acked⟩
      · exact ⟨isOver.symm, fun _ => Or.inl rfl, base.listening, base.interval, base.acked⟩
  | quiet lefts => exact ⟨base.closed, base.written, base.listening, base.interval, base.acked⟩

/-- The variables agree in every reachable state. -/
theorem base_of_reached {exchange : HttpExchange}
    (reached : (system request).Reachable exchange) : exchange.Base :=
  reached.invariant Base.initial fun _ _ _ base _ stepped => base_step base stepped

end HttpExchange
end Centro
