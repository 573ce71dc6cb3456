import Centro.Construction.Text
import Centro.Library.Emitter
import Centro.Library.TransitionSystem

namespace Centro

open Library

/-- The two transports for HTTP/2 share the function `on_close`. -/
inductive Http2Transport where
  | http2
  | http2Duplex
  deriving DecidableEq

/-- A stream is with the class `Http2DuplexServer` until it was answered or admitted. Connections
of the transport `http2-duplex` use duplexes. -/
inductive Http2Kind where
  | processing
  | answered
  | admitted
  | duplex
  deriving DecidableEq

structure Http2Stream where
  kind : Http2Kind
  closed : Bool

/-- The function `on_close` gets the callback that frees the slot of a stream, one of an
authorization, or the one that unregisters a connection. -/
inductive CloseCallback where
  | slot
  | authorization
  | connection
  deriving DecidableEq

/-- Each call of `on_close` makes a function `cb2` of its own. -/
structure CloseListener where
  number : Nat
  stream : Nat
  callback : CloseCallback
  deriving DecidableEq

/-- A stream is answered with a status, it is admitted when it may be closed already, it emits
`aborted` or `close`, or a callback is called. -/
inductive Http2Call where
  | respond (stream status : Nat)
  | admitted (stream : Nat) (closed : Bool)
  | emitted (stream : Nat) (aborted : Bool)
  | callback (listener : CloseListener)
  deriving DecidableEq

/-- The functions `cb2` that wait were not called. The limit is zero where the source has none. -/
structure Http2Streams where
  maxConnections : Nat
  numStreams : Int := 0
  streams : List Http2Stream := []
  listeners : Emitter CloseListener := {}
  registered : Nat := 0
  calls : List Http2Call := []

/-- The class `Http2DuplexServer` leaves a stream alone, has handled it, or asks for a new one. -/
inductive ProcessStream where
  | unhandled
  | handled
  | newStream
  deriving DecidableEq

namespace Http2Streams

def call (state : Http2Streams) (made : Http2Call) : Http2Streams :=
  { state with calls := state.calls ++ [made] }

/-- An emission may have called a function `cb2` for the first time, which calls its callback. -/
def notify (state : Http2Streams) : Option CloseListener × Emitter CloseListener → Http2Streams
  | (none, listeners) => { state with listeners }
  | (some listener, listeners) =>
      let numStreams :=
        if listener.callback = .slot then state.numStreams - 1 else state.numStreams
      { state with listeners, numStreams }.call (.callback listener)

/-- The function `on_close` calls back at once for a stream that is closed. -/
def onClose (state : Http2Streams) (stream : Nat) (closed : Bool) (callback : CloseCallback) :
    Http2Streams :=
  let listener := { number := state.registered, stream, callback }
  let state := { state with registered := state.registered + 1 }
  if closed then state.notify (some listener, state.listeners.enter)
  else { state with listeners := state.listeners.once listener }

def add (state : Http2Streams) (stream : Http2Stream) : Http2Streams :=
  { state with streams := state.streams ++ [stream] }

def replace (state : Http2Streams) (number : Nat) (stream : Http2Stream) : Http2Streams :=
  { state with streams := state.streams.set number stream }

/-- A stream that passed the other checks takes a slot if one is left. -/
def newStream (state : Http2Streams) (number : Nat) (closed : Bool) : Http2Streams :=
  if state.maxConnections ≠ 0 ∧ state.numStreams ≥ state.maxConnections then
    (state.replace number { kind := .answered, closed }).call (.respond number 503)
  else
    let state := state.replace number { kind := .admitted, closed }
    let state := { state with numStreams := state.numStreams + 1 }
    (state.call (.admitted number closed)).onClose number closed .slot

/-- The listener for `stream` of the transport `http2`. The function `cors` may answer itself. -/
def onStream (pathname : JsString) (state : Http2Streams) (cors : Bool) (path method : JsString)
    (closed : Bool) : Http2Streams :=
  let number := state.streams.length
  let state := state.add { kind := .answered, closed }
  if cors then state
  else if path ≠ pathname then state.call (.respond number 404)
  else if method ≠ text "POST" then state.call (.respond number 405)
  else state.newStream number closed

/-- The method `process_stream` of the transport `http2-duplex` until it waits for the class
`Http2DuplexServer`. -/
def processStream (state : Http2Streams) (cors closed : Bool) : Http2Streams :=
  if cors then state.add { kind := .answered, closed }
  else state.add { kind := .processing, closed }

/-- The class `Http2DuplexServer` processed a stream. -/
def processed (state : Http2Streams) (number : Nat) (closed : Bool) :
    ProcessStream → Http2Streams
  | .unhandled =>
      (state.replace number { kind := .answered, closed }).call (.respond number 404)
  | .handled => state.replace number { kind := .answered, closed }
  | .newStream => state.newStream number closed

/-- A stream that emits one of the events is closed. The functions `cb2` listen for both. -/
def emit (state : Http2Streams) (number : Nat) (kind : Http2Kind) (aborted : Bool) :
    Http2Streams :=
  let state := (state.replace number { kind, closed := true }).call (.emitted number aborted)
  state.notify (state.listeners.advance (state.listeners.waiting.filter (·.stream = number)))

/-- The limit changes, a stream arrives or was processed, or a duplex is made. An authorization is
cancelled or ends with the status of its error, an authorization or a connection calls `on_close`,
a stream is closed or emits an event, or a callback returns. -/
inductive Event where
  | limit (maxConnections : Nat)
  | stream (cors : Bool) (path method : JsString) (closed : Bool)
  | processStream (cors closed : Bool)
  | processed (number : Nat) (result : ProcessStream)
  | duplex (closed : Bool)
  | cancelled (number : Nat)
  | authorized (number : Nat) (error : Option Nat)
  | onclose (number : Nat) (connection : Bool)
  | closed (number : Nat)
  | emitted (number : Nat) (aborted : Bool)
  | returned

/-- Every event may occur while callbacks run. The transport `http2-duplex` leaves the answer for
an authorization that succeeds to the class `Http2DuplexServer`. -/
def step (transport : Http2Transport) (pathname : JsString) (state : Http2Streams) :
    Event → Option Http2Streams
  | .limit maxConnections => some { state with maxConnections }
  | .stream cors path method closed =>
      match transport with
      | .http2 => some (state.onStream pathname cors path method closed)
      | .http2Duplex => none
  | .processStream cors closed =>
      match transport with
      | .http2 => none
      | .http2Duplex => some (state.processStream cors closed)
  | .processed number result =>
      match state.streams[number]? with
      | some ⟨.processing, closed⟩ => some (state.processed number closed result)
      | _ => none
  | .duplex closed =>
      match transport with
      | .http2 => none
      | .http2Duplex => some (state.add { kind := .duplex, closed })
  | .cancelled number =>
      match state.streams[number]? with
      | some ⟨.admitted, _⟩ => some (state.call (.respond number 503))
      | _ => none
  | .authorized number error =>
      match state.streams[number]?, error, transport with
      | some ⟨.admitted, _⟩, some status, _ => some (state.call (.respond number status))
      | some ⟨.admitted, _⟩, none, .http2 => some (state.call (.respond number 200))
      | some ⟨.admitted, _⟩, none, .http2Duplex => some state
      | _, _, _ => none
  | .onclose number connection =>
      match state.streams[number]?, connection with
      | some ⟨.admitted, closed⟩, false => some (state.onClose number closed .authorization)
      | some ⟨.admitted, closed⟩, true =>
          match transport with
          | .http2 => some (state.onClose number closed .connection)
          | .http2Duplex => none
      | some ⟨.duplex, closed⟩, true => some (state.onClose number closed .connection)
      | _, _ => none
  | .closed number =>
      state.streams[number]?.map fun stream =>
        state.replace number { stream with closed := true }
  | .emitted number aborted =>
      state.streams[number]?.map fun stream => state.emit number stream.kind aborted
  | .returned => state.listeners.resume.map state.notify

def system (transport : Http2Transport) (pathname : JsString) (maxConnections : Nat) :
    TransitionSystem Http2Streams Event where
  initial := { maxConnections }
  step := step transport pathname

end Http2Streams
end Centro
