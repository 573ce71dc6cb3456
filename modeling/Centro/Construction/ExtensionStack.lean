import Centro.Construction.ActivePublications
import Centro.Library.Emitter
import Centro.Library.Layers

namespace Centro

open Library

/-- These extensions add a handler for `publish_requested` in `pre_connect`. The extension `backoff`
does so when it delays responses. -/
inductive PublishExtension where
  | limitActivePublications (maxPublications : Nat)
  | limitConnPublishedMessages (maxConnPublishedMessages : Nat) (closeConn : Bool)
  | limitConnPublishedData
  | throttlePublishStreams
  | timeoutPublishStreams
  | backoff
  deriving DecidableEq

/-- The stream of a request is piped through the transforms that these handlers made. -/
structure PublishStream where
  number : Nat
  transforms : List Nat := []
  deriving DecidableEq

/-- A callback for this request of a connection is called with an answer. -/
structure StackAnswer (Arguments : Type*) where
  number : Nat
  connection : Nat
  answer : PublishAnswer Arguments

/-- The callback of a handler waits with its answer for `drain`. -/
structure DelayedAnswer (Arguments : Type*) where
  level : Nat
  answered : StackAnswer Arguments

variable (Options Arguments : Type*)

/-- A handler gets a request and passes it on or refuses it, or the callback that it passed on is
called. The default handler gets a request and calls its callback later. The callback that came with
a request is called, the connection is destroyed, or a stream emits the error of a timeout. -/
inductive StackCall where
  | next (level : Nat) (request : PublishRequest PublishStream Options)
  | refused (level : Nat) (request : PublishRequest PublishStream Options)
      (answered : StackAnswer Arguments)
  | callback (level : Nat) (answered : StackAnswer Arguments)
  | publish (request : PublishRequest PublishStream Options)
  | completed (answered : StackAnswer Arguments)
  | cb (answered : StackAnswer Arguments)
  | destroy (connection : Nat)
  | timeout (level number : Nat)

/-- The requests came in this order. Each handler has variables of its own, some for
each connection and some for each request. The pairs in `decrement` have not used their own
function, and those in `timers` have a timer. The default handler holds the callbacks of the
requests in `published`. -/
structure ExtensionStack where
  requests : List (PublishRequest PublishStream Options) := []
  published : List (Nat × Nat) := []
  count : Nat → Int := fun _ => 0
  decrement : List (Nat × Nat) := []
  messages : Nat × Nat → Nat := fun _ => 0
  timers : List (Nat × Nat) := []
  boProp : Nat → Bool := fun _ => false
  drain : Nat → Emitter Nat := fun _ => {}
  delayed : List (DelayedAnswer Arguments) := []
  calls : List (StackCall Options Arguments) := []

namespace ExtensionStack

variable {Options Arguments : Type*}

def call (state : ExtensionStack Options Arguments) (made : StackCall Options Arguments) :
    ExtensionStack Options Arguments :=
  { state with calls := state.calls ++ [made] }

/-- A handler calls its callback with an error. -/
def refuse (request : PublishRequest PublishStream Options) (message : JsString) :
    Except (StackAnswer Arguments) (PublishRequest PublishStream Options) :=
  .error
    { number := request.stream.number
      connection := request.connection
      answer := .error message }

/-- These are the handlers for `publish_requested`. -/
def publishRequested (level : Nat) (state : ExtensionStack Options Arguments)
    (request : PublishRequest PublishStream Options) :
    PublishExtension → ExtensionStack Options Arguments ×
      Except (StackAnswer Arguments) (PublishRequest PublishStream Options)
  | .limitActivePublications maxPublications =>
      if state.count level ≥ maxPublications then
        (state, refuse request
          (text "publication limit " ++ text (toString maxPublications) ++
            text " already reached: " ++ request.topic))
      else
        let count := Function.update state.count level (state.count level + 1)
        let decrement := state.decrement ++ [(level, request.stream.number)]
        ({ state with count, decrement }, .ok request)
  | .limitConnPublishedMessages maxConnPublishedMessages _ =>
      let count := state.messages (level, request.connection) + 1
      let messages := Function.update state.messages (level, request.connection) count
      let state := { state with messages }
      if count > maxConnPublishedMessages then
        (state, refuse request
          (text "published message limit " ++ text (toString maxConnPublishedMessages) ++
            text " exceeded: " ++ request.topic))
      else (state, .ok request)
  | .limitConnPublishedData | .throttlePublishStreams =>
      let transforms := request.stream.transforms ++ [level]
      (state, .ok { request with stream := { request.stream with transforms } })
  | .timeoutPublishStreams =>
      let timers := state.timers ++ [(level, request.stream.number)]
      ({ state with timers }, .ok request)
  | .backoff => (state, .ok request)

/-- A handler that refused a request may destroy the connection. -/
def afterRefusal (state : ExtensionStack Options Arguments)
    (request : PublishRequest PublishStream Options) :
    PublishExtension → ExtensionStack Options Arguments
  | .limitConnPublishedMessages _ true => state.call (.destroy request.connection)
  | _ => state

/-- The handlers pass these callbacks on. A handler without one of its own passes on what it got. -/
def callback (level : Nat) (state : ExtensionStack Options Arguments)
    (answered : StackAnswer Arguments) :
    PublishExtension → ExtensionStack Options Arguments × Option (StackAnswer Arguments)
  | .limitActivePublications _ =>
      if (level, answered.number) ∈ state.decrement then
        let count := Function.update state.count level (state.count level - 1)
        let decrement := state.decrement.erase (level, answered.number)
        ({ state with count, decrement }, some answered)
      else (state, some answered)
  | .timeoutPublishStreams =>
      let timers := state.timers.erase (level, answered.number)
      ({ state with timers }, some answered)
  | .backoff =>
      if state.boProp answered.connection then
        let waiting := (state.drain answered.connection).once state.delayed.length
        let drain := Function.update state.drain answered.connection waiting
        ({ state with drain, delayed := state.delayed ++ [{ level, answered }] }, none)
      else (state, some answered)
  | _ => (state, some answered)

/-- The handler of an extension and the callback it passes on are one layer. -/
def layer (extension : PublishExtension) (level : Nat) : Layer (ExtensionStack Options Arguments)
    (PublishRequest PublishStream Options) (StackAnswer Arguments) where
  request state request :=
    match publishRequested level state request extension with
    | (state, .error answered) => (state.call (.refused level request answered), .error answered)
    | (state, .ok onward) => (state.call (.next level request), .ok onward)
  refused state request := state.afterRefusal request extension
  answer state answered := callback level (state.call (.callback level answered)) answered extension

/-- The handlers come in the order in which the extensions were attached. -/
def extensionAt (extensions : List PublishExtension) (level : Nat) : PublishExtension :=
  extensions[level]?.getD .throttlePublishStreams

def layers (extensions : List PublishExtension) (level : Nat) :
    Layer (ExtensionStack Options Arguments) (PublishRequest PublishStream Options)
      (StackAnswer Arguments) :=
  layer (extensionAt extensions level) level

/-- The callback that `mqlobber` passed with a request. -/
def cb (state : ExtensionStack Options Arguments) (answered : StackAnswer Arguments) :
    ExtensionStack Options Arguments :=
  state.call (.cb answered)

/-- The member `default_publish_requested_handler`. -/
def defaultHandler (state : ExtensionStack Options Arguments)
    (request : PublishRequest PublishStream Options) : ExtensionStack Options Arguments :=
  { state with published := state.published ++ [(request.stream.number, request.connection)] }.call
    (.publish request)

/-- The callback that the handler before this level passed on is called. -/
def answer (extensions : List PublishExtension) (level : Nat)
    (state : ExtensionStack Options Arguments) (answered : StackAnswer Arguments) :
    ExtensionStack Options Arguments :=
  Layer.ascend (layers extensions) cb level state answered

/-- The `MQlobberServer` of a connection emits `publish_requested`. -/
def publish (extensions : List PublishExtension) (state : ExtensionStack Options Arguments)
    (request : PublishRequest PublishStream Options) : ExtensionStack Options Arguments :=
  Layer.descend (layers extensions) cb defaultHandler extensions.length 0
    { state with requests := state.requests ++ [request] } request

/-- An emission of `drain` may have called a listener, which calls the callback that waited. -/
def release (extensions : List PublishExtension) (state : ExtensionStack Options Arguments)
    (connection : Nat) (called : Option Nat × Emitter Nat) : ExtensionStack Options Arguments :=
  let state := { state with drain := Function.update state.drain connection called.2 }
  match called.1.bind (state.delayed[·]?) with
  | none => state
  | some delayed => state.answer extensions delayed.level delayed.answered

/-- A client asks to publish, the default handler calls one of its callbacks, the `MQlobberServer`
of a connection emits an event, a listener for `drain` returns, or a timer fires. -/
inductive Event (Options Arguments : Type*) where
  | publish (connection : Nat) (topic : JsString) (options : Options)
  | completed (published : Nat) (arguments : Arguments)
  | backoff (connection : Nat)
  | drain (connection : Nat)
  | returned (connection : Nat)
  | timeout (timer : Nat)

/-- More events may follow from inside the callbacks, which come last in each step. -/
def step (extensions : List PublishExtension) (state : ExtensionStack Options Arguments) :
    Event Options Arguments → Option (ExtensionStack Options Arguments)
  | .publish connection topic options =>
      let stream : PublishStream := { number := state.requests.length }
      some (state.publish extensions { connection, topic, stream, options })
  | .completed published arguments => state.published[published]?.map fun (number, connection) =>
      let answered : StackAnswer Arguments :=
        { number, connection, answer := .arguments arguments }
      (state.call (.completed answered)).answer extensions extensions.length answered
  | .backoff connection =>
      if .backoff ∈ extensions then
        some { state with boProp := Function.update state.boProp connection true }
      else some state
  | .drain connection =>
      let state := { state with boProp := Function.update state.boProp connection false }
      some (state.release extensions connection (state.drain connection).emit)
  | .returned connection =>
      (state.drain connection).resume.map fun called => state.release extensions connection called
  | .timeout timer => state.timers[timer]?.map fun (level, number) =>
      { state with timers := state.timers.eraseIdx timer }.call (.timeout level number)

def system (extensions : List PublishExtension) :
    TransitionSystem (ExtensionStack Options Arguments) (Event Options Arguments) where
  initial := {}
  step := step extensions

end ExtensionStack
end Centro
