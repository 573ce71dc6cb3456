import Centro.Construction.Http
import Centro.Construction.Sse

namespace Centro

open Library

/-- The keep-alive interval is set, and the delay before a connection is destroyed is not
negative. -/
structure HttpOptions where
  http2 : Bool := false
  sseKeepAliveInterval : Bool := false
  destroyAfterEndDelay : Bool := true

/-- A request to publish or to subscribe passed the checks of its path and its method. -/
structure HttpRequest where
  config : Config
  options : HttpOptions
  subscribe : Bool
  query : Query

abbrev Headers := List (JsString × JsString)

/-- The client receives a head, server-sent events, or an object with the member `error`. -/
inductive HttpOutput where
  | head (code : Nat) (headers : Headers)
  | defaultHead (headers : Headers)
  | sse (write : SseWrite)
  | error (message : JsString)

/-- The response of Node sends a default head before data that is written first. A response that is
ended or closed takes no more data. -/
structure HttpResponse where
  headers : Headers := []
  headersSent : Bool := false
  ended : Bool := false
  closed : Bool := false
  output : List HttpOutput := []

namespace HttpResponse

def isOver (response : HttpResponse) : Bool := response.ended || response.closed

def send (response : HttpResponse) (data : List HttpOutput) : HttpResponse :=
  if response.headersSent then { response with output := response.output ++ data }
  else { response with
    headersSent := true
    output := response.output ++ .defaultHead response.headers :: data }

def write (response : HttpResponse) (write : SseWrite) : HttpResponse :=
  if response.isOver then response else response.send [.sse write]

/-- The argument of `end` may be empty. -/
def finish (response : HttpResponse) (data : JsString) : HttpResponse :=
  if response.isOver then { response with ended := true }
  else { response.send (if data = [] then [] else [.error data]) with ended := true }

/-- The method `setHeader` throws after the head was sent. -/
def setHeaders (response : HttpResponse) (headers : Headers) : Option HttpResponse :=
  if response.headersSent && headers != [] then none
  else some { response with headers := response.headers ++ headers }

/-- The method `writeHead` throws after the head was sent, and it may throw for another reason. -/
def writeHead (response : HttpResponse) (throws : Bool) (code : Nat) (headers : Headers) :
    Option HttpResponse :=
  if response.headersSent || throws then none
  else some { response with
    headersSent := true
    output := response.output ++ [.head code (response.headers ++ headers)] }

end HttpResponse

/-- The duplex `left` is open, its destruction is due with `nextTick`, or it was destroyed. -/
inductive LeftStage where
  | opened
  | destroying
  | destroyed
  deriving DecidableEq

/-- The request waits for its authorization, for the client, for the callback of `publish`, or for
that of the next of so many subscriptions. Then all subscriptions have succeeded, or no callback is
left. -/
inductive ExchangeStage where
  | authorizing
  | connecting
  | publishing
  | subscribing (topics : Nat)
  | subscribed
  | finished
  deriving DecidableEq

/-- The function `request` of the transport shares these variables with its callbacks. The function
`done` may be a listener of the response. -/
structure HttpExchange where
  closed : Bool := false
  headersWritten : Bool := false
  left : Option LeftStage := none
  sseInterval : Bool := false
  timeout : Bool := false
  listening : Bool := false
  stage : ExchangeStage := .authorizing
  acked : Nat := 0
  sse : Sse := {}
  response : HttpResponse := {}

/-- The first argument of `done` may be missing or zero. -/
structure DoneArguments where
  code : Option Nat := none
  data : Option JsString := none
  headers : Headers := []
  onlyHeaders : Bool := false

namespace HttpExchange

/-- The destruction of `left` is due. -/
def destroyLeft (exchange : HttpExchange) : HttpExchange :=
  { exchange with left := exchange.left.map fun stage =>
      if stage = .opened then .destroying else stage }

/-- This is the function `end_response`. -/
def endResponse (options : HttpOptions) (exchange : HttpExchange) (code : Nat) (data : JsString) :
    HttpExchange :=
  { exchange with
    response := exchange.response.finish data
    closed := true
    timeout := exchange.timeout || (code == 503 && options.destroyAfterEndDelay) }

/-- These headers are set before the head is written. -/
def errorHeaders (options : HttpOptions) (code : Nat) (data : JsString) : Headers :=
  (if data = [] then [] else [(text "Content-Type", text "application/json")]) ++
    if code = 503 && !options.http2 then [(text "Connection", text "close")] else []

/-- This is the part of `done` for a response that is not closed. An exception of `setHeader` ends
it without a response. -/
def respond (options : HttpOptions) (throws : Bool) (arguments : DoneArguments)
    (exchange : HttpExchange) : Bool × HttpExchange :=
  let code := match arguments.code with
    | none | some 0 => 500
    | some code => code
  if exchange.headersWritten then (false, exchange.endResponse options code [])
  else
    let data := arguments.data.getD (text "server error")
    match exchange.response.setHeaders (errorHeaders options code data) with
    | none => (false, exchange)
    | some response =>
        match response.writeHead throws code arguments.headers with
        | none => (false, { exchange with response }.endResponse options code data)
        | some response =>
            let exchange := { exchange with response, headersWritten := true }
            (true, if arguments.onlyHeaders then exchange
              else exchange.endResponse options code data)

/-- This is the function `done`. It tells whether it wrote the head. -/
def done (options : HttpOptions) (throws : Bool) (arguments : DoneArguments)
    (exchange : HttpExchange) : Bool × HttpExchange :=
  let exchange := { exchange with sseInterval := false }
  let exchange := if exchange.closed || !arguments.onlyHeaders then exchange.destroyLeft else exchange
  if exchange.closed then (false, exchange) else exchange.respond options throws arguments

/-- The listeners for `prefinish` and `close` set `closed` first. -/
def onclose (options : HttpOptions) (exchange : HttpExchange) : HttpExchange :=
  let exchange := { exchange with closed := true }
  if exchange.listening then (exchange.done options false {}).2 else exchange

/-- These are the headers of a stream of server-sent events. -/
def sseHeaders (options : HttpOptions) : Headers :=
  [(text "Content-Type", text "text/event-stream"), (text "Cache-Control", text "no-cache")] ++
    if options.http2 then [] else [(text "Connection", text "keep-alive")]

/-- After the last subscription the head is written, and then the first comment. -/
def subscribed (options : HttpOptions) (throws : Bool) (exchange : HttpExchange) : HttpExchange :=
  match exchange.done options throws
    { code := some 200, data := some [], headers := sseHeaders options, onlyHeaders := true } with
  | (false, exchange) => exchange
  | (true, exchange) => { exchange with
      listening := true
      response := exchange.response.write .ok
      sseInterval := options.sseKeepAliveInterval }

/-- The result of an authorization is an error with its status, or it starts the client. -/
structure AuthorizeError where
  statusCode : Option Nat
  message : JsString
  authenticate : JsString

/-- An error that has no text for the client ends the request. -/
def fail (options : HttpOptions) (throws : Bool) (exchange : HttpExchange) : HttpExchange :=
  (exchange.done options throws {}).2

def closing (options : HttpOptions) (throws : Bool) (exchange : HttpExchange) : HttpExchange :=
  (exchange.done options throws { code := some 503, data := some (text "closed") }).2

/-- The flag `throws` is set where `writeHead` throws for a reason of its own. -/
inductive Event where
  | authorized (error : Option AuthorizeError) (throws : Bool)
  | cancelled (throws : Bool)
  | ready (errors : JsString) (throws : Bool)
  | published (failed throws : Bool)
  | subscribed (failed throws : Bool)
  | message (move : SseMove)
  | keepAlive
  | clientError (duplex throws : Bool)
  | destroyed (throws : Bool)
  | leftClosed (throws : Bool)
  | prefinish
  | close
  | tick
  | timeout

/-- A subscription of the request has succeeded, or one is outstanding. The client may have its
handler before its callback. -/
def handling (exchange : HttpExchange) : Bool :=
  match exchange.stage with
  | .subscribing _ => true
  | _ => decide (exchange.acked ≠ 0)

/-- An error of the client about one duplex is only a warning. -/
def step (request : HttpRequest) (exchange : HttpExchange) : Event → Option HttpExchange
  | .authorized error throws =>
      if exchange.stage = .authorizing then
        match error with
        | none => some { exchange with left := some .opened, stage := .connecting }
        | some error => some ({ exchange with stage := .finished }.done request.options throws
            { code := error.statusCode, data := some error.message
              headers := [(text "WWW-Authenticate", error.authenticate)] }).2
      else none
  | .cancelled throws =>
      if exchange.stage = .authorizing then
        some ({ exchange with stage := .finished }.closing request.options throws)
      else none
  | .ready errors throws =>
      if exchange.stage = .connecting then
        match if request.subscribe then
            (Http.validateSub request.config (Http.subOptions request.query)).map fun topics =>
              ExchangeStage.subscribing topics.length
          else (Http.validatePub request.config (Http.pubOptions request.query)).map fun _ =>
            ExchangeStage.publishing with
        | some stage => some { exchange with stage }
        | none => some ({ exchange with stage := .finished }.done request.options throws
            { code := some 400, data := some errors }).2
      else none
  | .published failed throws =>
      if exchange.stage = .publishing then
        let exchange := { exchange with stage := .finished }
        some (if failed then exchange.fail request.options throws
          else (exchange.done request.options throws { code := some 200, data := some [] }).2)
      else none
  | .subscribed failed throws =>
      match exchange.stage with
      | .subscribing topics =>
          if failed then some ({ exchange with stage := .finished }.fail request.options throws)
          else if exchange.acked + 1 < topics then
            some { exchange with acked := exchange.acked + 1 }
          else
            some ({ exchange with acked := exchange.acked + 1, stage := .subscribed }.subscribed
              request.options throws)
      | _ => none
  | .message move =>
      if exchange.handling then
        (exchange.sse.step move).map fun next =>
          { exchange with sse := next.1, response := exchange.response.write next.2 }
      else none
  | .keepAlive =>
      if exchange.sseInterval then
        some { exchange with response := exchange.response.write .keepAlive }
      else none
  | .clientError duplex throws =>
      if exchange.left = none then none
      else if duplex then some exchange
      else some (exchange.fail request.options throws)
  | .destroyed throws =>
      if exchange.left = none then none else some (exchange.closing request.options throws)
  | .leftClosed throws =>
      if exchange.left = none then none
      else some ({ exchange with left := some .destroyed }.closing request.options throws)
  | .prefinish =>
      if exchange.response.ended then some (exchange.onclose request.options) else none
  | .close =>
      if exchange.response.closed then none
      else some ({ exchange with
        timeout := false
        response := { exchange.response with closed := true } }.onclose request.options)
  | .tick =>
      if exchange.left = some .destroying then some { exchange with left := some .destroyed }
      else none
  | .timeout => if exchange.timeout then some { exchange with timeout := false } else none

def system (request : HttpRequest) : TransitionSystem HttpExchange Event where
  initial := {}
  step := step request

/-- No callback and no timer of the request is outstanding. -/
def idle (exchange : HttpExchange) : Bool :=
  (exchange.stage = .subscribed ∨ exchange.stage = .finished) && exchange.left ≠ some .destroying &&
    !exchange.timeout && !exchange.sseInterval

end HttpExchange
end Centro
