import Centro.Construction.HttpExchange

namespace Centro

open Library

/-- The function `done` is called, it writes the head, calls `res.end`, or returns. The keep-alive
interval starts, and the response emits `prefinish` and `close`. -/
inductive DoneCall where
  | called
  | writeHead
  | resEnd
  | returned (onlyHeaders value : Bool)
  | setInterval
  | prefinish
  | close
  deriving DecidableEq

/-- A call of `done` waits for `res.end`, and then it returns this value. -/
structure Ending where
  code : Nat
  onlyHeaders : Bool
  value : Bool

/-- The calls of `done` for one request share the variables of the request. A call of `res.end` that
has not returned may emit events. -/
structure HttpDone where
  exchange : HttpExchange := {}
  endings : List Ending := []
  calls : List DoneCall := []

/-- This is the operator `||` with the status 500. -/
def DoneArguments.status (arguments : DoneArguments) : Nat :=
  match arguments.code with
  | none | some 0 => 500
  | some code => code

namespace HttpDone

def call (state : HttpDone) (made : DoneCall) : HttpDone :=
  { state with calls := state.calls ++ [made] }

def returns (state : HttpDone) (arguments : DoneArguments) (value : Bool) :
    Option Bool × HttpDone :=
  (some value, state.call (.returned arguments.onlyHeaders value))

/-- The first line of `end_response` calls `res.end`. -/
def ends (state : HttpDone) (arguments : DoneArguments) (data : JsString) (value : Bool) :
    Option Bool × HttpDone :=
  (none, { state with
    exchange.response := state.exchange.response.finish data
    endings := { code := arguments.status, onlyHeaders := arguments.onlyHeaders, value } ::
      state.endings }.call .resEnd)

/-- A call of `done` stops the interval, and the destruction of `left` may be due. -/
def called (arguments : DoneArguments) (state : HttpDone) : HttpDone :=
  let exchange := { state.exchange with sseInterval := false }
  let exchange :=
    if exchange.closed || !arguments.onlyHeaders then exchange.destroyLeft else exchange
  { state with exchange }.call .called

/-- This is the function `done` up to its return or to its call of `res.end`. -/
def done (options : HttpOptions) (throws : Bool) (arguments : DoneArguments) (state : HttpDone) :
    Option Bool × HttpDone :=
  let state := state.called arguments
  if state.exchange.closed then state.returns arguments false
  else if state.exchange.headersWritten then state.ends arguments [] false
  else
    let data := arguments.data.getD (text "server error")
    match state.exchange.response.setHeaders
        (HttpExchange.errorHeaders options arguments.status data) with
    | none => state.returns arguments false
    | some response =>
        match response.writeHead throws arguments.status arguments.headers with
        | none => { state with exchange.response := response }.ends arguments data false
        | some response =>
            let state := { state with
              exchange.response := response
              exchange.headersWritten := true }.call .writeHead
            if arguments.onlyHeaders then state.returns arguments true
            else state.ends arguments data true

/-- The call of `res.end` returns, and then `done` does. -/
def ended (options : HttpOptions) (state : HttpDone) : Option HttpDone :=
  match state.endings with
  | [] => none
  | ending :: endings =>
      let timeout := state.exchange.timeout || (ending.code == 503 && options.destroyAfterEndDelay)
      let exchange := { state.exchange with closed := true, timeout }
      some ({ state with exchange, endings }.call (.returned ending.onlyHeaders ending.value))

/-- The listener `onclose` comes before the listener `done`. -/
def emit (options : HttpOptions) (state : HttpDone) (event : DoneCall) : HttpDone :=
  let state := { state with exchange.closed := true }.call event
  if state.exchange.listening then (state.done options false {}).2 else state

/-- The function `done` becomes a listener, the first comment is written, and the interval
starts. -/
def stream (options : HttpOptions) (state : HttpDone) : HttpDone :=
  let exchange := { state.exchange with
    listening := true
    response := state.exchange.response.write .ok
    sseInterval := options.sseKeepAliveInterval }
  let state := { state with exchange }
  if options.sseKeepAliveInterval then state.call .setInterval else state

/-- After the last subscription the stream begins if `done` has written the head. -/
def subscribed (options : HttpOptions) (throws : Bool) (state : HttpDone) : HttpDone :=
  let headers := HttpExchange.sseHeaders options
  let (value, state) :=
    state.done options throws { code := some 200, data := some [], headers, onlyHeaders := true }
  if value = some true then state.stream options else state

/-- The duplex `left` is made, some code calls `done` or writes to the response, `res.end` returns,
or the response emits an event. -/
inductive Event where
  | authorized
  | done (arguments : DoneArguments) (throws : Bool)
  | subscribed (throws : Bool)
  | write (write : SseWrite)
  | ended
  | prefinish
  | close

/-- While `res.end` runs only the listeners of the response are called. -/
def step (options : HttpOptions) (state : HttpDone) : Event → Option HttpDone
  | .authorized =>
      if state.exchange.left = none then some { state with exchange.left := some .opened } else none
  | .done arguments throws =>
      if state.endings.isEmpty then some (state.done options throws arguments).2 else none
  | .subscribed throws =>
      if state.endings.isEmpty then some (state.subscribed options throws) else none
  | .write write =>
      if state.endings.isEmpty then
        some { state with exchange.response := state.exchange.response.write write }
      else none
  | .ended => state.ended options
  | .prefinish => some (state.emit options .prefinish)
  | .close =>
      let response := { state.exchange.response with closed := true }
      let exchange := { state.exchange with timeout := false, response }
      some ({ state with exchange }.emit options .close)

def system (options : HttpOptions) : TransitionSystem HttpDone Event where
  initial := {}
  step := step options

end HttpDone
end Centro
