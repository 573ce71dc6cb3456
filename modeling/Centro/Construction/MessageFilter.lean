import Centro.Library.Trace
import Centro.Library.TransitionSystem

namespace Centro

open Library

/-- The extensions `backoff` and `full` set a property of the `MQlobberServer` of a connection. -/
inductive MessageFlag where
  | boProp
  | flProp
  deriving DecidableEq

/-- The extensions `backoff` and `full` read these members of their configuration for messages. -/
structure FlagConfig where
  closeConn : Bool := false
  skipMessage : Bool := false
  delayMessage : Bool := false

/-- These extensions deal with messages before they reach the handlers. Other code may add a filter
of its own. -/
inductive MessageExtension where
  | backoff (config : FlagConfig)
  | full (config : FlagConfig)
  | delayMessageUntilAllStreamsUnderHwm
  | other

/-- An extension adds one of these to the filters of `QlobberFSQ`. -/
inductive MessageFilter where
  | skipMessage (flag : MessageFlag)
  | delayMessage (flag : MessageFlag)
  | delayMessageUntilAllStreamsUnderHwm
  | other
  deriving DecidableEq

/-- This is the filter that `backoff` and `full` add in `ready`. -/
def FlagConfig.ready (config : FlagConfig) (flag : MessageFlag) : Option MessageFilter :=
  if config.closeConn then none
  else if config.skipMessage then some (.skipMessage flag)
  else if config.delayMessage then some (.delayMessage flag)
  else none

namespace MessageExtension

def ready : MessageExtension → Option MessageFilter
  | .backoff config => config.ready .boProp
  | .full config => config.ready .flProp
  | .delayMessageUntilAllStreamsUnderHwm => some .delayMessageUntilAllStreamsUnderHwm
  | .other => some .other

/-- The extension destroys a connection when its `MQlobberServer` emits this event. -/
def closes (flag : MessageFlag) : MessageExtension → Bool
  | .backoff config => config.closeConn && flag = .boProp
  | .full config => config.closeConn && flag = .flProp
  | .delayMessageUntilAllStreamsUnderHwm | .other => false

end MessageExtension

/-- A handler of a message may belong to the `MQlobberServer` of a connection. -/
structure MessageHandler where
  number : Nat
  mqlobberServer : Option Nat
  deriving DecidableEq

/-- A stream of a connection holds data that it has not sent yet. -/
structure FilterDuplex where
  length : Nat
  highWaterMark : Nat
  deriving DecidableEq

/-- A filter passes on the handlers that it got, or an iterator of `wu` over them, which tests each
one when it is asked for the next. -/
structure HandlerIterable where
  handlers : List MessageHandler := []
  skip : Option MessageFlag := none

/-- `QlobberFSQ` tries a message with the handlers that it found for it. It takes handlers out of
what the last filter passed on. -/
structure FilterAttempt where
  handlers : List MessageHandler
  taken : List MessageHandler
  filter : Nat := 0
  iterable : HandlerIterable := {}
  postponed : Bool := false

/-- The last filter did not postpone the message, and all that it passed on was taken. -/
def FilterAttempt.Ready (attempt : FilterAttempt) : Prop :=
  attempt.postponed = false ∧ attempt.iterable.handlers = []

instance (attempt : FilterAttempt) : Decidable attempt.Ready :=
  inferInstanceAs (Decidable (_ ∧ _))

/-- A `MQlobberServer` emits an event or writes to its streams, and its connection is destroyed. A
message is tried. A filter is called, drops a handler, postpones the message or passes it on. A
handler is taken out of what was passed on, or is called. -/
inductive FilterCall where
  | emitted (flag : MessageFlag) (server : Nat) (raised : Bool)
  | written (server : Nat) (duplexes : List FilterDuplex)
  | destroy (server : Nat)
  | process (message : Nat) (handlers : List MessageHandler)
  | filter (message level : Nat) (handlers : List MessageHandler)
  | onSkip (message level : Nat) (handler : MessageHandler)
  | omit (message level : Nat) (handler : MessageHandler)
  | onDelay (message level : Nat) (handler : MessageHandler)
  | postpone (message level : Nat)
  | pass (message level : Nat)
  | take (message level : Nat) (handler : MessageHandler)
  | call (message : Nat) (handler : MessageHandler)
  deriving DecidableEq

/-- The `MQlobberServer` of each connection carries the properties and has its streams. -/
structure MessageFilters where
  property : MessageFlag → Nat → Bool := fun _ _ => false
  duplexes : Nat → List FilterDuplex := fun _ => []
  attempts : List FilterAttempt := []
  calls : List FilterCall := []

namespace MessageFilters

/-- This is the test in the loops of the filters of `backoff` and `full`. -/
def raised (state : MessageFilters) (flag : MessageFlag) (handler : MessageHandler) : Bool :=
  handler.mqlobberServer.any (state.property flag)

/-- This is the test in the loop of `delay_message_until_all_streams_under_hwm`. -/
def full (state : MessageFilters) (handler : MessageHandler) : Bool :=
  handler.mqlobberServer.any fun server =>
    (state.duplexes server).any fun duplex => duplex.length ≥ duplex.highWaterMark

/-- An iterator of `wu` does not give this handler. -/
def skips (state : MessageFilters) (iterable : HandlerIterable) (handler : MessageHandler) : Bool :=
  iterable.skip.any fun flag => state.raised flag handler

def setAttempt (state : MessageFilters) (message : Nat) (attempt : FilterAttempt)
    (made : List FilterCall) : MessageFilters :=
  { state with attempts := state.attempts.set message attempt, calls := state.calls ++ made }

/-- The function `cb` gets no error, `true` and the handlers that are passed on. -/
def pass (state : MessageFilters) (message : Nat) (attempt : FilterAttempt)
    (iterable : HandlerIterable) (made : List FilterCall) : MessageFilters :=
  state.setAttempt message
    { attempt with taken := [], filter := attempt.filter + 1, iterable }
    (made ++ [.pass message attempt.filter])

/-- The function `cb` gets no error and `false`. -/
def postpone (state : MessageFilters) (message : Nat) (attempt : FilterAttempt)
    (made : List FilterCall) : MessageFilters :=
  state.setAttempt message
    { attempt with taken := [], filter := attempt.filter + 1, iterable := {}, postponed := true }
    made

/-- A filter that may postpone a message loops over all handlers and passes them on. -/
def delay (state : MessageFilters) (message : Nat) (attempt : FilterAttempt)
    (handlers : List MessageHandler) (stop : MessageHandler → Bool) (made : List FilterCall) :
    MessageFilters :=
  match handlers.find? stop with
  | some handler =>
      state.postpone message attempt (made ++ [.onDelay message attempt.filter handler])
  | none => state.pass message attempt { handlers } made

/-- A filter of other code keeps some of the handlers or postpones the message. -/
def keep (state : MessageFilters) (message : Nat) (attempt : FilterAttempt)
    (handlers : List MessageHandler) (made : List FilterCall) :
    Option (MessageHandler → Bool) → MessageFilters
  | none => state.postpone message attempt (made ++ [.postpone message attempt.filter])
  | some keeps =>
      let omitted := handlers.filter fun handler => !keeps handler
      state.pass message attempt { handlers := handlers.filter keeps }
        (made ++ omitted.map (.omit message attempt.filter))

/-- A filter gets the message, these handlers and `cb`. -/
def applyFilter (state : MessageFilters) (message : Nat) (attempt : FilterAttempt)
    (handlers : List MessageHandler) (other : Option (MessageHandler → Bool)) :
    MessageFilter → MessageFilters :=
  let made := [.filter message attempt.filter handlers]
  fun
  | .skipMessage flag => state.pass message attempt { handlers, skip := some flag } made
  | .delayMessage flag => state.delay message attempt handlers (state.raised flag) made
  | .delayMessageUntilAllStreamsUnderHwm => state.delay message attempt handlers state.full made
  | .other => state.keep message attempt handlers made other

/-- The next handler is taken out of the iterable, which drops the ones before it. -/
def next (state : MessageFilters) (message : Nat) (attempt : FilterAttempt) : MessageFilters :=
  let skips := state.skips attempt.iterable
  let noted := (attempt.iterable.handlers.takeWhile skips).map
    (FilterCall.onSkip message (attempt.filter - 1))
  match attempt.iterable.handlers.dropWhile skips with
  | handler :: handlers =>
      let taken := attempt.taken ++ [handler]
      state.setAttempt message
        { attempt with taken, iterable := { attempt.iterable with handlers } }
        (noted ++ [.take message (attempt.filter - 1) handler])
  | [] =>
      state.setAttempt message { attempt with iterable := { attempt.iterable with handlers := [] } }
        noted

/-- A `MQlobberServer` emits an event, or its streams change. `QlobberFSQ` finds the handlers of a
message, calls the next filter with some handlers, takes a handler out of what the filter passed on,
or calls a handler. -/
inductive Event where
  | emitted (flag : MessageFlag) (server : Nat) (raised : Bool)
  | written (server : Nat) (duplexes : List FilterDuplex)
  | process (handlers : List MessageHandler)
  | filter (message : Nat) (handlers : List MessageHandler)
      (other : Option (MessageHandler → Bool))
  | next (message : Nat)
  | call (message : Nat) (handler : MessageHandler)

/-- The events `backoff` and `full` raise their property, and `drain` and `removed` lower it. -/
def emitted (extensions : List MessageExtension) (state : MessageFilters) (flag : MessageFlag)
    (server : Nat) (raised : Bool) : MessageFilters :=
  let property := Function.update state.property flag
    (Function.update (state.property flag) server raised)
  let closing := if raised then extensions.filter (·.closes flag) else []
  { state with
    property
    calls := state.calls ++ [.emitted flag server raised] ++ closing.map fun _ => .destroy server }

/-- The members `filters` of `QlobberFSQ` after all extensions were attached. -/
def filters (extensions : List MessageExtension) : List MessageFilter :=
  extensions.filterMap MessageExtension.ready

def step (extensions : List MessageExtension) (state : MessageFilters) :
    Event → Option MessageFilters
  | .emitted flag server raised => some (state.emitted extensions flag server raised)
  | .written server duplexes =>
      some { state with
        duplexes := Function.update state.duplexes server duplexes
        calls := state.calls ++ [.written server duplexes] }
  | .process handlers =>
      some { state with
        attempts := state.attempts ++ [{ handlers, taken := handlers }]
        calls := state.calls ++ [.process state.attempts.length handlers] }
  | .filter message handlers other => do
      let attempt ← state.attempts[message]?
      let filter ← (filters extensions)[attempt.filter]?
      some (state.applyFilter message attempt handlers other filter)
  | .next message => state.attempts[message]?.map (state.next message)
  | .call message handler => state.attempts[message]?.map fun attempt =>
      state.setAttempt message attempt [.call message handler]

def system (extensions : List MessageExtension) : TransitionSystem MessageFilters Event where
  initial := {}
  step := step extensions

end MessageFilters

/-- The package `QlobberFSQ` tells which of its events may come next. -/
abbrev QlobberFSQ := MessageFilters → MessageFilters.Event → Prop

/-- This is what the documentation of `QlobberFSQ` says about filters. A filter gets the handlers
that the package has taken out of what the filter before passed on. The handlers that are called
were taken out of what the last filter passed on. -/
structure QlobberFSQ.Documented (fsq : QlobberFSQ) (extensions : List MessageExtension) : Prop where
  filters : ∀ state message handlers other attempt, fsq state (.filter message handlers other) →
    state.attempts[message]? = some attempt → attempt.Ready ∧ handlers = attempt.taken
  calls : ∀ state message handler attempt, fsq state (.call message handler) →
    state.attempts[message]? = some attempt → attempt.Ready ∧
      attempt.filter = (MessageFilters.filters extensions).length ∧ handler ∈ attempt.taken

end Centro
