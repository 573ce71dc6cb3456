import Centro.Construction.Text
import Mathlib.Data.List.Basic

namespace Centro

/-- A transport with the member `authorize_config` gets an authorizer of its own. The in-memory
transport always has this member. -/
structure TransportSpec where
  authorizeConfig : Bool := false
  deriving DecidableEq

/-- The application lists its transports, and it may pass an `fsq` that was initialized or not. -/
structure Setup where
  transports : List TransportSpec
  fsq : Option Bool := none
  deriving DecidableEq

/-- The calls of `close` and the continuations of a failed close pass functions with these
numbers. -/
abbrev Callback := Nat

/-- The server makes and receives these calls while it starts and closes. -/
inductive ServerCall where
  | authorize
  | error (message : JsString)
  | warning (message : JsString)
  | startTransport (index : Nat)
  | authorizeTransport (index : Nat)
  | runTransport (index : Nat)
  | transportReady (index : Nat)
  | ready
  | closeCalled (callback : Callback)
  | stopWatching
  | closeAuthz
  | authzClosed (err : Option JsString)
  | closeTransportAuthz (index : Nat)
  | closeTransport (index : Nat)
  | close
  | calledBack (callback : Callback) (err : Option JsString)
  deriving DecidableEq

/-- The start of one transport waits for the event `start`, for its authorizer, for the transport,
or for the close of its authorizer after an error. -/
inductive StartStage where
  | fsq
  | authorizing
  | running
  | closingAuthz (err : JsString)

/-- The operations of a transport close its own authorizer first if it has one. -/
structure TransportOps where
  authz : Bool
  deriving DecidableEq

/-- The server waits for the default authorizer, `mapSeries` starts a transport, the callback of
`nextTick` is due, or it was called. -/
inductive Startup where
  | authorizing
  | failed (err : JsString)
  | starting (index : Nat) (stage : StartStage) (ops : List (Option TransportOps))
  | started (err : Option JsString)
  | done (err : Option JsString)

/-- The operation `close` of one transport is deferred because there are no operations, waits for
the authorizer, waits for the transport with or without an authorizer, or has called back. -/
inductive CloseStage where
  | deferred
  | authz
  | wrapped (err : Option JsString)
  | plain
  | calledBack
  deriving DecidableEq

/-- The method `_close` was not called, waits for the `fsq`, waits for the default authorizer, or
waits for the transports. After an error it waits for the continuation. -/
inductive Shutdown where
  | idle
  | stopping (cb : Option Callback)
  | closingAuthz (cb : Option Callback)
  | authzFailed (cb : Option Callback)
  | closingTransports (cb : Option Callback) (stages : List CloseStage)
  | transportsFailed (cb : Option Callback) (stages : List CloseStage)
  | finishing (cb : Option Callback) (stages : List CloseStage)

/-- The server starts and closes with these variables. The member `listening` tells whether `check`
is a listener of `empty`, and `waiters` are the listeners that `close` adds for `close`. -/
structure Lifecycle where
  startup : Startup := .authorizing
  ready : Bool := false
  closed : Bool := false
  closeCb : Option Callback := none
  transportOps : List (Option TransportOps) := []
  shutdown : Shutdown := .idle
  listening : Bool := false
  waiters : List Callback := []
  callbacks : Nat := 0
  calls : List ServerCall := [.authorize]

namespace Lifecycle

def call (lifecycle : Lifecycle) (made : ServerCall) : Lifecycle :=
  { lifecycle with calls := lifecycle.calls ++ [made] }

/-- The function `warning` does nothing without an error. -/
def warning (lifecycle : Lifecycle) : Option JsString → Lifecycle
  | some err => lifecycle.call (.warning err)
  | none => lifecycle

def callBack (lifecycle : Lifecycle) (cb : Option Callback) (err : Option JsString) : Lifecycle :=
  match cb with
  | some cb => lifecycle.call (.calledBack cb err)
  | none => lifecycle

/-- The application passes a function to a continuation, or nothing. -/
def newCallback (lifecycle : Lifecycle) (passes : Bool) : Option Callback × Lifecycle :=
  if passes then
    (some lifecycle.callbacks, { lifecycle with callbacks := lifecycle.callbacks + 1 })
  else (none, lifecycle)

/-- The function `transports_started` gets the results that `mapSeries` has collected. -/
def transportsStarted (lifecycle : Lifecycle) (err : Option JsString)
    (ops : List (Option TransportOps)) : Lifecycle :=
  { lifecycle with transportOps := ops, startup := .started err }

/-- The function `run_transport`. -/
def runTransport (lifecycle : Lifecycle) (index : Nat) (ops : List (Option TransportOps)) :
    Lifecycle :=
  ({ lifecycle with startup := .starting index .running ops }).call (.runTransport index)

/-- The function `start_transport2`. -/
def startTransport2 (lifecycle : Lifecycle) (index : Nat) (spec : TransportSpec)
    (ops : List (Option TransportOps)) : Lifecycle :=
  if spec.authorizeConfig then
    ({ lifecycle with startup := .starting index .authorizing ops }).call (.authorizeTransport index)
  else lifecycle.runTransport index ops

/-- `mapSeries` starts the next transport or ends. The first transport finds no `fsq` yet, and
waits for its event `start` unless it was initialized. -/
def startTransport (setup : Setup) (lifecycle : Lifecycle) (ops : List (Option TransportOps)) :
    Lifecycle :=
  match setup.transports[ops.length]? with
  | none => lifecycle.transportsStarted none ops
  | some spec =>
      let lifecycle := lifecycle.call (.startTransport ops.length)
      if ops.length = 0 ∧ setup.fsq ≠ some true then
        { lifecycle with startup := .starting ops.length .fsq ops }
      else lifecycle.startTransport2 ops.length spec ops

/-- The function `transport_ready`. -/
def transportReady (setup : Setup) (lifecycle : Lifecycle) (index : Nat) (spec : TransportSpec)
    (ops : List (Option TransportOps)) : Option JsString → Lifecycle
  | some err =>
      let lifecycle := lifecycle.warning (some err)
      if spec.authorizeConfig then
        ({ lifecycle with startup := .starting index (.closingAuthz err) ops }).call
          (.closeTransportAuthz index)
      else lifecycle.transportsStarted (some err) (ops ++ [none])
  | none =>
      startTransport setup (lifecycle.call (.transportReady index))
        (ops ++ [some { authz := spec.authorizeConfig }])

/-- The fsq, the authorizers and the transports cause these events while the server starts. -/
inductive StartEvent where
  | fsqStarted
  | transportAuthorized (err : Option JsString)
  | transportReady (err : Option JsString)
  | transportAuthzClosed (err : Option JsString)

def start (setup : Setup) (lifecycle : Lifecycle) (event : StartEvent) : Option Lifecycle :=
  match lifecycle.startup with
  | .starting index stage ops => do
      let spec ← setup.transports[index]?
      match stage, event with
      | .fsq, .fsqStarted => some (lifecycle.startTransport2 index spec ops)
      | .authorizing, .transportAuthorized none => some (lifecycle.runTransport index ops)
      | .authorizing, .transportAuthorized (some err) =>
          some (lifecycle.transportsStarted (some err) (ops ++ [none]))
      | .running, .transportReady err => some (lifecycle.transportReady setup index spec ops err)
      | .closingAuthz err, .transportAuthzClosed err2 =>
          some ((lifecycle.warning err2).transportsStarted (some err) (ops ++ [none]))
      | _, _ => none
  | _ => none

/-- The member `close` of an element of `transport_ops` begins in this stage. -/
def firstStage : Option TransportOps → CloseStage
  | none => .deferred
  | some ops => if ops.authz then .authz else .plain

/-- The member `close` of an element of `transport_ops` begins with this call. -/
def firstCalls (index : Nat) : Option TransportOps → List ServerCall
  | none => []
  | some ops => if ops.authz then [.closeTransportAuthz index] else [.closeTransport index]

/-- The loop of `async.each` begins to close every transport. -/
def closeAll (lifecycle : Lifecycle) (cb : Option Callback) : Lifecycle :=
  let ops := lifecycle.transportOps
  { lifecycle with
    transportOps := []
    shutdown := .closingTransports cb (ops.map firstStage)
    calls := lifecycle.calls ++ ops.zipIdx.flatMap fun (ops, index) => firstCalls index ops }

/-- The close of the authorizer or of the transport itself calls back. The second component is
the error of the whole operation once it has called back. -/
def closeStage (lifecycle : Lifecycle) (index : Nat) (err : Option JsString) :
    CloseStage → Option (CloseStage × Option JsString × Lifecycle)
  | .deferred => if err = none then some (.calledBack, none, lifecycle) else none
  | .authz => some (.wrapped err, none, (lifecycle.warning err).call (.closeTransport index))
  | .wrapped err2 => some (.calledBack, err2 <|> err, lifecycle.warning err)
  | .plain => some (.calledBack, err, lifecycle)
  | .calledBack => none

/-- The shutdown ends: the server emits `close`, and then it calls back. -/
def finish (lifecycle : Lifecycle) (cb : Option Callback) : Lifecycle :=
  { lifecycle with
    closed := true
    waiters := []
    calls := lifecycle.calls ++ [.close] ++
      (lifecycle.waiters.map fun waiter => .calledBack waiter none) ++
      (cb.map fun cb => ServerCall.calledBack cb none).toList }

end Lifecycle
end Centro
