import Centro.Proof.HttpExchange.Steps

namespace Centro

open Library

namespace HttpResponse

/-- What was sent stays in the output. -/
theorem write_extends (response : HttpResponse) (write : SseWrite) :
    ∃ extra, (response.write write).output = response.output ++ extra := by
  unfold HttpResponse.write
  split
  · exact ⟨[], (List.append_nil _).symm⟩
  · unfold send
    split
    · exact ⟨_, rfl⟩
    · exact ⟨_, rfl⟩

/-- A write to an open response is put out. -/
theorem write_sent {response : HttpResponse} (going : response.isOver = false) (write : SseWrite) :
    HttpOutput.sse write ∈ (response.write write).output := by
  rw [HttpResponse.write, if_neg (by simp [going]), send]
  split <;> simp

end HttpResponse

namespace HttpExchange

/-- No message arrives while a subscription is outstanding and the response is open, and the head is
refused only after a default head. -/
def Uninterrupted (exchange : HttpExchange) : Event → Prop
  | .message _ => (∀ topics, exchange.stage ≠ .subscribing topics) ∨ exchange.response.isOver = true
  | .subscribed _ throws => throws = false
  | _ => True

/-- The head of a stream and its first comment were sent. -/
def Streams (exchange : HttpExchange) : Prop :=
  (∃ item ∈ exchange.response.output, item.IsStreamHead) ∧
    ∃ item ∈ exchange.response.output, item.IsOk

/-- Each server-sent event comes after the head of a stream and after its first comment. -/
def HeadFirst (exchange : HttpExchange) : Prop :=
  OnlyAfter HttpOutput.IsStreamHead HttpOutput.IsEvent exchange.response.output ∧
    OnlyAfter HttpOutput.IsOk HttpOutput.IsEvent exchange.response.output

/-- A response that is open has no head before its stream begins, and the stream begins with the
last subscription. -/
structure Headed (exchange : HttpExchange) : Prop where
  sent : exchange.response.headersSent = true → exchange.closed = true ∨ exchange.listening = true
  fresh : exchange.response.Fresh
  streams : exchange.listening = true → exchange.Streams
  first : exchange.HeadFirst
  subscribed : exchange.stage = .subscribed → exchange.closed = true ∨ exchange.listening = true
  finished : exchange.stage = .finished → exchange.closed = true

variable {request : HttpRequest} {before after : HttpExchange}

theorem Headed.initial : Headed {} where
  sent := by intro sent; cases sent
  fresh := fun _ => rfl
  streams := by intro listening; cases listening
  first := ⟨onlyAfter_nil, onlyAfter_nil⟩
  subscribed := by intro stage; cases stage
  finished := by intro stage; cases stage

/-- A stream that has begun stays begun. -/
theorem Streams.extends {extra : List HttpOutput} (streams : before.Streams)
    (shape : after.response.output = before.response.output ++ extra) : after.Streams := by
  obtain ⟨⟨head, present, heads⟩, ok, member, comment⟩ := streams
  exact ⟨⟨head, shape ▸ List.mem_append_left _ present, heads⟩,
    ok, shape ▸ List.mem_append_left _ member, comment⟩

/-- Items that are no events do not disturb the order, and events do not after the head. -/
theorem HeadFirst.extends {extra : List HttpOutput} (first : before.HeadFirst)
    (shape : after.response.output = before.response.output ++ extra)
    (backed : (∀ item ∈ extra, ¬item.IsEvent) ∨ before.Streams) : after.HeadFirst := by
  rw [HeadFirst, shape]
  obtain silent | ⟨head, ok⟩ := backed
  · exact ⟨first.1.append fun item member event => absurd event (silent item member),
      first.2.append fun item member event => absurd event (silent item member)⟩
  · exact ⟨first.1.append fun _ _ _ => head, first.2.append fun _ _ _ => ok⟩

/-- A request that waits keeps its response in order. -/
theorem Headed.waits {stage : ExchangeStage} {left : Option LeftStage} {acked : Nat}
    (headed : before.Headed) (pending : stage.Pending) :
    Headed { before with left, stage, acked } where
  sent := headed.sent
  fresh := headed.fresh
  streams := headed.streams
  first := headed.first
  subscribed := by
    rintro rfl
    simp [ExchangeStage.Pending] at pending
  finished := by
    rintro rfl
    simp [ExchangeStage.Pending] at pending

/-- A settled request keeps its response in order. -/
theorem Headed.settled {stage : ExchangeStage} {left : Option LeftStage} (base : before.Base)
    (headed : before.Headed)
    (stages : stage = before.stage ∨ stage = .finished ∧ before.stage ≠ .subscribed)
    (done : Settled { before with stage, left } after) : after.Headed := by
  obtain ⟨extra, shape, silent⟩ := done.grows
  refine ⟨?_, done.fresh headed.fresh, ?_, ?_, ?_, ?_⟩
  · intro sent
    obtain earlier | closed := done.sent sent
    · exact (headed.sent earlier).imp done.closed done.listening.trans
    · exact Or.inl closed
  · intro listening
    exact (headed.streams (done.listening.symm.trans listening)).extends shape
  · exact headed.first.extends shape (Or.inl silent)
  · intro subscribed
    rw [done.stage] at subscribed
    obtain rfl | ⟨rfl, -⟩ := stages
    · exact (headed.subscribed subscribed).imp done.closed done.listening.trans
    · cases subscribed
  · intro finished
    rw [done.stage] at finished
    obtain rfl | ⟨-, other⟩ := stages
    · exact done.closed (headed.finished finished)
    · cases sent : before.response.headersSent with
      | false => exact done.ends (Or.inr sent)
      | true =>
          obtain closed | listening := headed.sent sent
          · exact done.closed closed
          · exact absurd (base.listening listening) other

/-- Nothing was sent before the stream of an open response begins. -/
theorem Headed.unsent {topics : Nat} (base : before.Base) (headed : before.Headed)
    (subscribing : before.stage = .subscribing topics) (going : before.closed = false) :
    before.response.headersSent = false := by
  cases sent : before.response.headersSent with
  | false => rfl
  | true =>
      obtain closed | listening := headed.sent sent
      · exact absurd closed (by simp [going])
      · have subscribed := base.listening listening
        rw [subscribing] at subscribed
        cases subscribed

/-- The stream of an open response begins with its head and its first comment. -/
theorem Headed.opens {topics : Nat} (base : before.Base) (headed : before.Headed)
    (subscribing : before.stage = .subscribing topics) (going : before.closed = false) :
    let opened := { before with acked := before.acked + 1, stage := .subscribed }.subscribed
      request.options false
    opened.Headed ∧ opened.Streams := by
  intro opened
  obtain ⟨response, unfinished, fresh, ⟨headers, output⟩, shape⟩ :=
    @Base.opens request _ _ base subscribing going (headed.unsent base subscribing going)
  obtain ⟨extra, more, silent⟩ := @HttpResponse.grows_write response .ok id
  have whole : opened.response.output = before.response.output ++
      ([.head 200 (headers ++ sseHeaders request.options)] ++ extra) := by
    rw [show opened = _ from shape, more, output, List.append_assoc]
  have streams : opened.Streams := by
    refine ⟨⟨.head 200 (headers ++ sseHeaders request.options), ?_, rfl, ?_⟩, .sse .ok, ?_, trivial⟩
    · exact whole ▸ List.mem_append_right _ (List.mem_append_left _ (List.mem_singleton_self _))
    · exact List.mem_append_right _ List.mem_cons_self
    · rw [show opened = _ from shape]
      exact HttpResponse.write_sent unfinished .ok
  have first : opened.HeadFirst := by
    refine headed.first.extends whole (Or.inl fun item member => ?_)
    obtain member | member := List.mem_append.mp member
    · obtain rfl := List.mem_singleton.mp member
      exact id
    · exact silent item member
  have listening : opened.listening = true := by rw [show opened = _ from shape]
  have stage : opened.stage = .subscribed := by rw [show opened = _ from shape]
  refine ⟨⟨fun _ => Or.inr listening, ?_, fun _ => streams, first, fun _ => Or.inr listening, ?_⟩,
    streams⟩
  · rw [show opened = _ from shape]
    exact fresh.write .ok
  · intro finished
    rw [stage] at finished
    cases finished

/-- The last subscription begins the stream, or the response is over. -/
theorem Headed.lastSubscribed {topics : Nat} (base : before.Base) (headed : before.Headed)
    (subscribing : before.stage = .subscribing topics) :
    Headed ({ before with acked := before.acked + 1, stage := .subscribed }.subscribed
      request.options false) := by
  obtain closed | closed := Bool.eq_false_or_eq_true before.closed
  · have shape := @subscribed_over request.options false
      { before with acked := before.acked + 1, stage := .subscribed } closed
    rw [shape]
    exact ⟨headed.sent, headed.fresh, headed.streams, headed.first, fun _ => Or.inl closed,
      fun finished => by cases finished⟩
  · exact (headed.opens base subscribing closed).1

/-- A write to a stream keeps the order, and one to a response that is over changes nothing. -/
theorem Headed.write {sse : Sse} {write : SseWrite} (base : before.Base) (headed : before.Headed)
    (ready : before.closed = true ∨ before.listening = true) :
    Headed { before with sse, response := before.response.write write } := by
  obtain closed | listening := ready
  · rw [HttpResponse.write_of_over (base.closed ▸ closed)]
    exact ⟨headed.sent, headed.fresh, headed.streams, headed.first, headed.subscribed, headed.finished⟩
  · obtain ⟨extra, shape⟩ := before.response.write_extends write
    have streams := headed.streams listening
    exact ⟨fun _ => Or.inr listening, headed.fresh.write write, fun _ => streams.extends shape,
      headed.first.extends shape (Or.inr streams), headed.subscribed, headed.finished⟩

/-- A step without an early message keeps the response in order. -/
theorem headed_step {event : Event} (base : before.Base) (headed : before.Headed)
    (uninterrupted : before.Uninterrupted event)
    (stepped : (system request).step before event = some after) : after.Headed := by
  cases moved_of_step stepped with
  | started authorizing => exact headed.waits (Or.inl rfl)
  | ready connecting waits => exact headed.waits (Or.inr waits)
  | acked subscribing => exact headed.waits (Or.inr (Or.inr ⟨_, subscribing⟩))
  | settled stages lefts done => exact headed.settled base stages done
  | subscribed subscribing last =>
      obtain rfl := uninterrupted
      exact headed.lastSubscribed base subscribing
  | message handling =>
      refine headed.write base ?_
      obtain apart | isOver := uninterrupted
      · have between : ¬∃ topics, before.stage = .subscribing topics :=
          fun subscribing => apart subscribing.choose subscribing.choose_spec
        have acked := (handling_iff.mp handling).resolve_left between
        obtain subscribing | subscribed | finished := base.acked acked
        · exact absurd subscribing between
        · exact headed.subscribed subscribed
        · exact Or.inl (headed.finished finished)
      · exact Or.inl (base.closed.trans isOver)
  | keepAlive alive => exact headed.write base (Or.inr (base.interval alive))
  | closes isOver =>
      rw [onclose_eq]
      split
      · exact ⟨fun _ => Or.inl rfl, headed.fresh, headed.streams, headed.first, fun _ => Or.inl rfl,
          fun _ => rfl⟩
      · exact ⟨fun _ => Or.inl rfl, headed.fresh, headed.streams, headed.first, fun _ => Or.inl rfl,
          fun _ => rfl⟩
  | quiet lefts =>
      exact ⟨headed.sent, headed.fresh, headed.streams, headed.first, headed.subscribed, headed.finished⟩

/-- The response is in order in every run without early messages. -/
theorem headed_of_reached {exchange : HttpExchange}
    (reached : (system request).ReachableUnder Uninterrupted exchange) : exchange.Headed := by
  induction reached with
  | initial => exact Headed.initial
  | step earlier uninterrupted stepped headed =>
      exact headed_step (base_of_reached earlier.reachable) headed uninterrupted stepped

/-- A message that interrupts the subscriptions comes before every head. -/
theorem interrupted_step {move : SseMove}
    (reached : (system request).ReachableUnder Uninterrupted before)
    (interrupts : ¬before.Uninterrupted (.message move))
    (stepped : (system request).step before (.message move) = some after) : ¬after.HeadFirst := by
  have headed := headed_of_reached reached
  have base := base_of_reached reached.reachable
  simp only [Uninterrupted, not_or, not_forall, ne_eq, not_not, Bool.not_eq_true] at interrupts
  obtain ⟨⟨topics, subscribing⟩, going⟩ := interrupts
  have unsent := headed.unsent base subscribing (base.closed.trans going)
  obtain ⟨write, event, output⟩ := message_step stepped going unsent
  rw [headed.fresh unsent] at output
  rintro ⟨heads, -⟩
  obtain ⟨earlier, member, head⟩ := heads [.defaultHead before.response.headers] (.sse write) []
    output event
  obtain rfl := List.mem_singleton.mp member
  exact head

end HttpExchange

open HttpExchange in
/-- In every run in which no message arrives between two subscriptions, each server-sent event comes
after the head and the first comment, and these are sent when the last subscription succeeds while
the response is open. -/
theorem head_first {request : HttpRequest} {exchange : HttpExchange}
    (reached : (system request).ReachableUnder Uninterrupted exchange) :
    exchange.HeadFirst ∧ ∀ opened,
      (system request).step exchange (.subscribed false false) = some opened →
      opened.stage = .subscribed → exchange.response.isOver = false → opened.Streams := by
  have headed := headed_of_reached reached
  have base := base_of_reached reached.reachable
  refine ⟨headed.first, fun opened stepped last going => ?_⟩
  obtain ⟨topics, subscribing, ⟨-, rfl⟩ | ⟨-, rfl⟩⟩ := subscribed_step stepped
  · rw [subscribing] at last
    cases last
  · exact (headed.opens base subscribing (base.closed.trans going)).2

namespace HttpExchange

/-- The samples subscribe to two topics. -/
def sampleRequest : HttpRequest where
  config := { maxWords := 2, maxTopicLength := none }
  options := {}
  subscribe := true
  query := { topic := some (.array [text "a", text "b"]) }

/-- A message arrives after both subscriptions. -/
def sampleAfter : List Event :=
  [.authorized none false, .ready [] false, .subscribed false false, .subscribed false false,
    .message (.handler .empty)]

/-- A message arrives between the two subscriptions. -/
def sampleBetween : List Event :=
  [.authorized none false, .ready [] false, .subscribed false false,
    .message (.handler .empty), .subscribed false false, .prefinish]

instance (exchange : HttpExchange) : (event : Event) → Decidable (exchange.Uninterrupted event)
  | .message _ =>
      match stage : exchange.stage with
      | .subscribing _ => decidable_of_iff (exchange.response.isOver = true)
          (by simp [Uninterrupted, stage])
      | .authorizing | .connecting | .publishing | .subscribed | .finished =>
          .isTrue (by simp [Uninterrupted, stage])
  | .subscribed _ throws => inferInstanceAs (Decidable (throws = false))
  | .authorized _ _ | .cancelled _ | .ready _ _ | .published _ _ | .keepAlive | .clientError _ _
  | .destroyed _ | .leftClosed _ | .prefinish | .close | .tick | .timeout => .isTrue trivial

end HttpExchange

open HttpExchange in
theorem head_first_sample : ∃ exchange,
    (system sampleRequest).run (system sampleRequest).initial sampleAfter = some exchange ∧
    (∃ item ∈ exchange.response.output, item.IsEvent) ∧ exchange.HeadFirst ∧ ∀ opened,
      (system sampleRequest).step exchange (.subscribed false false) = some opened →
      opened.stage = .subscribed → exchange.response.isOver = false → opened.Streams := by
  obtain ⟨exchange, ran, item, member, event⟩ : ∃ exchange,
      (system sampleRequest).run (system sampleRequest).initial sampleAfter = some exchange ∧
      ∃ item ∈ exchange.response.output, item.IsEvent :=
    ⟨_, rfl, .sse _, List.mem_cons_of_mem _ (List.mem_cons_of_mem _ List.mem_cons_self), trivial⟩
  have uninterrupted : (system sampleRequest).AllSteps Uninterrupted (system sampleRequest).initial
      sampleAfter := by decide
  exact ⟨exchange, ran, ⟨item, member, event⟩,
    head_first (TransitionSystem.ReachableUnder.initial.run uninterrupted ran)⟩

open HttpExchange in
/-- The event of an early message has no head before it, and no head follows it. -/
theorem head_missing : ∃ exchange,
    (system sampleRequest).run (system sampleRequest).initial sampleBetween = some exchange ∧
    exchange.stage = .subscribed ∧ ¬exchange.HeadFirst ∧
    ∀ item ∈ exchange.response.output, ¬item.IsStreamHead := by
  refine ⟨_, rfl, rfl, ?_, ?_⟩
  · rintro ⟨heads, -⟩
    obtain ⟨earlier, member, head⟩ := heads [.defaultHead []] (.sse _) [] rfl trivial
    obtain rfl := List.mem_singleton.mp member
    exact head
  · intro item member head
    obtain rfl | member := List.mem_cons.mp (show item ∈ [.defaultHead [], .sse _] from member)
    · exact head
    · obtain rfl := List.mem_singleton.mp member
      exact head

end Centro
