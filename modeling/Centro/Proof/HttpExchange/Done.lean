import Centro.Construction.HttpExchange
import Centro.Library.Trace

namespace Centro

open Library

/-- The item is a server-sent event. -/
def HttpOutput.IsEvent : HttpOutput → Prop
  | sse (.event _ _) => True
  | _ => False

/-- The item is the head of a stream of server-sent events. -/
def HttpOutput.IsStreamHead : HttpOutput → Prop
  | head code headers => code = 200 ∧ (text "Content-Type", text "text/event-stream") ∈ headers
  | _ => False

/-- The item is the first comment. -/
def HttpOutput.IsOk : HttpOutput → Prop
  | sse .ok => True
  | _ => False

namespace HttpResponse

/-- Nothing was put out before a head was sent. -/
def Fresh (response : HttpResponse) : Prop := response.headersSent = false → response.output = []

/-- The output grows by items that are no server-sent events. -/
def Grows (before after : HttpResponse) : Prop :=
  ∃ extra, after.output = before.output ++ extra ∧ ∀ item ∈ extra, ¬item.IsEvent

theorem Grows.refl (response : HttpResponse) : response.Grows response :=
  ⟨[], (List.append_nil _).symm, fun _ member => by cases member⟩

/-- What grows may grow again. -/
theorem Grows.trans {first second third : HttpResponse} (left : first.Grows second)
    (right : second.Grows third) : first.Grows third := by
  obtain ⟨one, shape, silent⟩ := left
  obtain ⟨two, shape', silent'⟩ := right
  refine ⟨one ++ two, by rw [shape', shape, List.append_assoc], fun item member => ?_⟩
  obtain member | member := List.mem_append.mp member
  · exact silent item member
  · exact silent' item member

/-- Data that are no events keep the order. -/
theorem grows_send {response : HttpResponse} {data : List HttpOutput}
    (silent : ∀ item ∈ data, ¬item.IsEvent) : response.Grows (response.send data) := by
  unfold send
  split
  · exact ⟨data, rfl, silent⟩
  · refine ⟨_, rfl, fun item member => ?_⟩
    obtain rfl | member := List.mem_cons.mp member
    · exact id
    · exact silent item member

@[simp] theorem send_ended (response : HttpResponse) (data : List HttpOutput) :
    (response.send data).ended = response.ended := by
  unfold send
  split <;> rfl

@[simp] theorem send_closed (response : HttpResponse) (data : List HttpOutput) :
    (response.send data).closed = response.closed := by
  unfold send
  split <;> rfl

/-- A response that has sent something is fresh no more. -/
theorem fresh_send (response : HttpResponse) (data : List HttpOutput) :
    (response.send data).Fresh := by
  intro unsent
  unfold send at unsent
  split at unsent
  · next sent => exact absurd sent (by simp [show response.headersSent = false from unsent])
  · cases unsent

@[simp] theorem finish_over (response : HttpResponse) (data : JsString) :
    (response.finish data).isOver = true := by
  unfold finish
  split <;> simp [isOver]

/-- The end of a response adds no event. -/
theorem grows_finish (response : HttpResponse) (data : JsString) :
    response.Grows (response.finish data) := by
  unfold finish
  split
  · exact Grows.refl response
  · refine @grows_send response _ fun item member => ?_
    split at member
    · cases member
    · obtain rfl := List.mem_singleton.mp member
      exact id

theorem Fresh.setHeaders {response : HttpResponse} (fresh : response.Fresh) (headers : Headers) :
    Fresh { response with headers } := fresh

/-- The end of a response leaves it fresh or sends its head. -/
theorem Fresh.finish {response : HttpResponse} (fresh : response.Fresh) (data : JsString) :
    (response.finish data).Fresh := by
  unfold HttpResponse.finish
  split
  · exact fresh
  · exact fresh_send response _

/-- A write leaves a response fresh or sends its head. -/
theorem Fresh.write {response : HttpResponse} (fresh : response.Fresh) (write : SseWrite) :
    (response.write write).Fresh := by
  unfold HttpResponse.write
  split
  · exact fresh
  · exact fresh_send response _

@[simp] theorem write_over (response : HttpResponse) (write : SseWrite) :
    (response.write write).isOver = response.isOver := by
  unfold HttpResponse.write
  split
  · rfl
  · simp [isOver]

/-- A response that is over takes no write. -/
theorem write_of_over {response : HttpResponse} (isOver : response.isOver = true) (write : SseWrite) :
    response.write write = response := by
  rw [HttpResponse.write, if_pos isOver]

/-- A comment adds no event. -/
theorem grows_write {response : HttpResponse} {write : SseWrite}
    (silent : ¬(HttpOutput.sse write).IsEvent) : response.Grows (response.write write) := by
  unfold HttpResponse.write
  split
  · exact Grows.refl response
  · refine grows_send fun item member => ?_
    obtain rfl := List.mem_singleton.mp member
    exact silent

theorem grows_headers (response : HttpResponse) (headers : Headers) :
    response.Grows { response with headers } :=
  ⟨[], (List.append_nil _).symm, fun _ member => by cases member⟩

/-- Headers that are set come behind those set before. -/
theorem setHeaders_eq_some {response after : HttpResponse} {headers : Headers}
    (set : response.setHeaders headers = some after) :
    after = { response with headers := response.headers ++ headers } := by
  unfold setHeaders at set
  split at set
  · cases set
  · exact (Option.some.inj set).symm

/-- Headers are refused only after the head. -/
theorem setHeaders_eq_none {response : HttpResponse} {headers : Headers}
    (refused : response.setHeaders headers = none) : response.headersSent = true := by
  unfold setHeaders at refused
  split at refused
  · next sent => exact (Bool.and_eq_true_iff.mp sent).1
  · cases refused

/-- A head is written once, and before all data. -/
theorem writeHead_eq_some {response after : HttpResponse} {throws : Bool} {code : Nat}
    {headers : Headers} (written : response.writeHead throws code headers = some after) :
    response.headersSent = false ∧ throws = false ∧ after = { response with
      headersSent := true
      output := response.output ++ [.head code (response.headers ++ headers)] } := by
  unfold writeHead at written
  split at written
  · cases written
  · next quiet =>
      simp only [Bool.or_eq_true, not_or, Bool.not_eq_true] at quiet
      exact ⟨quiet.1, quiet.2, (Option.some.inj written).symm⟩

end HttpResponse

namespace HttpExchange

variable {options : HttpOptions} {throws : Bool} {arguments : DoneArguments}

/-- The function `done` without `only_headers` makes the destruction of `left` due, and what it adds
to an open response is its end. -/
structure Settled (before after : HttpExchange) : Prop where
  left : after.left = before.destroyLeft.left
  stage : after.stage = before.stage
  acked : after.acked = before.acked
  listening : after.listening = before.listening
  sseInterval : after.sseInterval = false
  closed : before.closed = true → after.closed = true
  isOver : before.closed = before.response.isOver → after.closed = after.response.isOver
  written : after.headersWritten = true → before.headersWritten = true ∨ after.closed = true
  sent : after.response.headersSent = true → before.response.headersSent = true ∨ after.closed = true
  ends : before.headersWritten = true ∨ before.response.headersSent = false → after.closed = true
  grows : before.response.Grows after.response
  fresh : before.response.Fresh → after.response.Fresh

/-- The end of the response settles the request. -/
theorem settled_endResponse {exchange : HttpExchange} {response : HttpResponse} {written : Bool}
    (grows : exchange.response.Grows response)
    (fresh : exchange.response.Fresh → response.Fresh) (code : Nat) (data : JsString) :
    Settled exchange ({ exchange.destroyLeft with
      sseInterval := false, response, headersWritten := written }.endResponse options code data) where
  left := rfl
  stage := rfl
  acked := rfl
  listening := rfl
  sseInterval := rfl
  closed _ := rfl
  isOver _ := (HttpResponse.finish_over _ _).symm
  written _ := Or.inr rfl
  sent _ := Or.inr rfl
  ends _ := rfl
  grows := grows.trans (HttpResponse.grows_finish _ _)
  fresh earlier := (fresh earlier).finish data

/-- A response that is closed already settles the request quietly. -/
theorem settled_quiet {exchange : HttpExchange}
    (ends : exchange.headersWritten = true ∨ exchange.response.headersSent = false →
      exchange.closed = true) :
    Settled exchange { exchange.destroyLeft with sseInterval := false } where
  left := rfl
  stage := rfl
  acked := rfl
  listening := rfl
  sseInterval := rfl
  closed := id
  isOver := id
  written := Or.inl
  sent := Or.inl
  ends := ends
  grows := HttpResponse.Grows.refl _
  fresh := id

/-- Every full run of `done` settles the request. -/
theorem done_settled (exchange : HttpExchange) (whole : arguments.onlyHeaders = false) :
    Settled exchange (exchange.done options throws arguments).2 := by
  simp only [done, whole, Bool.not_false, Bool.or_true, if_true]
  split
  · next closed => exact settled_quiet fun _ => closed
  · unfold respond
    dsimp only
    split
    · exact settled_endResponse (.refl _) id _ _
    · next unwritten =>
        split
        · next refused =>
            have sent : exchange.response.headersSent = true :=
              HttpResponse.setHeaders_eq_none refused
            refine settled_quiet fun clear => ?_
            obtain written | unsent := clear
            · exact absurd written unwritten
            · exact absurd unsent (by rw [sent]; decide)
        · next response set =>
            obtain rfl := HttpResponse.setHeaders_eq_some set
            split
            · exact @settled_endResponse _ exchange _ _ (HttpResponse.grows_headers _ _)
                (fun fresh => fresh.setHeaders _) _ _
            · next response headed =>
                obtain ⟨-, -, rfl⟩ := HttpResponse.writeHead_eq_some headed
                rw [whole]
                refine @settled_endResponse _ exchange _ _ ⟨_, rfl, fun item member => ?_⟩
                  (fun _ unsent => by cases unsent) _ _
                obtain rfl := List.mem_singleton.mp member
                exact id

/-- After the last subscription the response is over already, the head was written before, the head
cannot be written, or the stream begins. -/
theorem subscribed_cases (options : HttpOptions) (throws : Bool) (exchange : HttpExchange) :
    (exchange.closed = true ∧ exchange.subscribed options throws =
      { exchange.destroyLeft with sseInterval := false }) ∨
    (exchange.closed = false ∧
      (exchange.headersWritten = true ∨ exchange.response.headersSent = true ∨ throws = true) ∧
      ∃ headers, exchange.subscribed options throws =
        { exchange with
          sseInterval := false
          response := { exchange.response with headers } }.endResponse options 200 []) ∨
    (exchange.closed = false ∧ exchange.response.headersSent = false ∧ throws = false ∧
      ∃ response : HttpResponse, response.isOver = exchange.response.isOver ∧
        response.headersSent = true ∧
        (∃ headers, response.output =
          exchange.response.output ++ [.head 200 (headers ++ sseHeaders options)]) ∧
        exchange.subscribed options throws =
          { exchange with
            headersWritten := true
            listening := true
            response := response.write .ok
            sseInterval := options.sseKeepAliveInterval }) := by
  obtain ⟨closed, headersWritten, left, sseInterval, timeout, listening, stage, acked, sse,
    ⟨headers, headersSent, ended, isOver, output⟩⟩ := exchange
  cases closed with
  | true => exact Or.inl ⟨rfl, rfl⟩
  | false =>
      refine Or.inr ?_
      cases headersWritten with
      | true => exact Or.inl ⟨rfl, Or.inl rfl, headers, rfl⟩
      | false =>
          cases headersSent with
          | true => exact Or.inl ⟨rfl, Or.inr (Or.inl rfl), _, rfl⟩
          | false =>
              cases throws with
              | true => exact Or.inl ⟨rfl, Or.inr (Or.inr rfl), _, rfl⟩
              | false =>
                  let set := headers ++ errorHeaders options 200 []
                  exact Or.inr ⟨rfl, rfl, rfl, {
                    headers := set
                    headersSent := true
                    ended
                    closed := isOver
                    output := output ++ [.head 200 (set ++ sseHeaders options)] },
                    rfl, rfl, ⟨set, rfl⟩, rfl⟩

end HttpExchange
end Centro
