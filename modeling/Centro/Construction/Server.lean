import Centro.Construction.Authorization
import Centro.Construction.Keystore
import Centro.Construction.Lifecycle

namespace Centro

open Library

/-- The server authorizes streams, serves connections, and starts and closes. -/
structure Server where
  authorization : Authorization := {}
  keyed : KeyedService := {}
  lifecycle : Lifecycle := {}

namespace Server

/-- The member `_closing`. -/
def closing (server : Server) : Bool := server.keyed.service.closing

/-- The member `_connids`. -/
def connids (server : Server) : OrderedMap JsString Nat := server.keyed.service.shared.connids

/-- The function `check` of `cont`. Its variable `closed` is true while the shutdown finishes. -/
def check (server : Server) : Server :=
  match server.lifecycle.shutdown with
  | .finishing cb _ =>
      if server.connids.size = 0 then { server with lifecycle := server.lifecycle.finish cb }
      else server
  | _ => server

/-- The function `cont2` of `cont`. -/
def cont2 (server : Server) (cb : Option Callback) (stages : List CloseStage) : Server :=
  ({ server with lifecycle.shutdown := .finishing cb stages }).check

/-- The listener for `empty` is called once. -/
def empty (server : Server) : Server :=
  if server.lifecycle.listening then ({ server with lifecycle.listening := false }).check
  else server

/-- The connections take a step and may emit `empty`. -/
def serve (server : Server) (keyed : KeyedService) : Server :=
  let emitted := server.keyed.service.shared.notices.count .empty
  let server := { server with keyed }
  if emitted < keyed.service.shared.notices.count .empty then server.empty else server

/-- The function `cont` of `close_transports`. -/
def cont (runtime : Runtime) (server : Server) (cb : Option Callback) : Server :=
  let closed := server.lifecycle.transportOps.isEmpty
  let server := { server with lifecycle := server.lifecycle.closeAll cb }
  let server := if closed then server.cont2 cb [] else server
  let server := { server with lifecycle.listening := true }
  server.serve { server.keyed with service := server.keyed.service.destroyAll runtime }

/-- The function `close_transports`. -/
def closeTransports (runtime : Runtime) (server : Server) (cb : Option Callback)
    (err : Option JsString) : Server :=
  let server := { server with authorization := server.authorization.shutdown }
  match err with
  | some err =>
      { server with
        lifecycle := { server.lifecycle with shutdown := .authzFailed cb }.callBack cb (some err) }
  | none => server.cont runtime cb

/-- The function `close_authz`. -/
def closeAuthz (lifecycle : Lifecycle) (cb : Option Callback) : Lifecycle :=
  ({ lifecycle with shutdown := .closingAuthz cb }).call .closeAuthz

/-- The method `_close`. A server with a transport has an `fsq`. -/
def _close (setup : Setup) (lifecycle : Lifecycle) (cb : Option Callback) : Lifecycle :=
  if setup.transports ≠ [] ∧ setup.fsq = none then
    ({ lifecycle with shutdown := .stopping cb }).call .stopWatching
  else closeAuthz lifecycle cb

/-- The method `close`. -/
def close (setup : Setup) (server : Server) : Server :=
  let cb := server.lifecycle.callbacks
  let lifecycle := ({ server.lifecycle with callbacks := cb + 1 }).call (.closeCalled cb)
  if server.closing then
    if lifecycle.closed then { server with lifecycle := lifecycle.call (.calledBack cb none) }
    else { server with lifecycle := { lifecycle with waiters := lifecycle.waiters ++ [cb] } }
  else
    let server := { server with keyed.service.closing := true }
    if lifecycle.ready then { server with lifecycle := _close setup lifecycle (some cb) }
    else { server with lifecycle := { lifecycle with closeCb := some cb } }

/-- The listeners for `error` may call `close` several times. -/
def closeTimes (setup : Setup) (server : Server) : Nat → Server
  | 0 => server
  | closes + 1 => closeTimes setup (server.close setup) closes

/-- The function `error` emits the error, and a listener may call `close`. -/
def error (setup : Setup) (server : Server) (err : JsString) (closes : Nat) : Server :=
  ({ server with lifecycle := server.lifecycle.call (.error err) }).closeTimes setup closes

/-- The function `authorize` gets the default authorizer or an error. -/
def authorize (setup : Setup) (server : Server) (closes : Nat) : Option JsString → Server
  | some err => { server.error setup err closes with lifecycle.startup := .failed err }
  | none => { server with lifecycle := server.lifecycle.startTransport setup [] }

/-- The callback of `nextTick` goes on after it has emitted its error. -/
def settle (setup : Setup) (server : Server) (err : Option JsString) : Server :=
  let server := { server with lifecycle.startup := .done err, lifecycle.ready := err.isNone }
  if server.lifecycle.closeCb.isSome || err.isSome then
    { server with
      lifecycle := _close setup { server.lifecycle with closeCb := none } server.lifecycle.closeCb }
  else { server with lifecycle := server.lifecycle.call .ready }

/-- The callback of `nextTick` in `transports_started`. -/
def tick (setup : Setup) (server : Server) (closes : Nat) : Option JsString → Server
  | some err => (server.error setup err closes).settle setup (some err)
  | none => server.settle setup none

/-- The operation `close` of one transport makes progress. The first error ends `async.each`, and
the other operations go on. -/
def transportClosed (server : Server) (index : Nat) (err : Option JsString) : Option Server :=
  match server.lifecycle.shutdown with
  | .closingTransports cb stages => do
      let stage ← stages[index]?
      let (stage, err, lifecycle) ← server.lifecycle.closeStage index err stage
      let stages := stages.set index stage
      match err with
      | some err => some { server with
          lifecycle := { lifecycle with shutdown := .transportsFailed cb stages }.callBack cb (some err) }
      | none =>
          let server := { server with
            lifecycle := { lifecycle with shutdown := .closingTransports cb stages } }
          some (if ∀ stage ∈ stages, stage = .calledBack then server.cont2 cb stages else server)
  | .transportsFailed cb stages => do
      let stage ← stages[index]?
      let (stage, _, lifecycle) ← server.lifecycle.closeStage index err stage
      some { server with
        lifecycle := { lifecycle with shutdown := .transportsFailed cb (stages.set index stage) } }
  | .finishing cb stages => do
      let stage ← stages[index]?
      let (stage, _, lifecycle) ← server.lifecycle.closeStage index err stage
      some { server with
        lifecycle := { lifecycle with shutdown := .finishing cb (stages.set index stage) } }
  | _ => none

/-- The application, the authorizers, the transports and the connections cause these events. -/
inductive Event where
  | authorization (event : Authorization.Event)
  | keyed (event : KeyedService.Event)
  | authorized (err : Option JsString) (closes : Nat)
  | start (event : Lifecycle.StartEvent)
  | tick (closes : Nat)
  | close
  | stoppedWatching
  | authzClosed (err : Option JsString)
  | cont (passes : Bool)
  | transportClosed (index : Nat) (err : Option JsString)
  | cont2 (passes : Bool)

/-- Only the server itself shuts its parts down. A continuation is called at most once, by the
function that got it. -/
def step (runtime : Runtime) (setup : Setup) (server : Server) : Event → Option Server
  | .authorization .shutdown => none
  | .authorization event =>
      (server.authorization.step runtime event).map fun authorization => { server with authorization }
  | .keyed (.service .beginClosing) | .keyed (.service .destroyAll) => none
  | .keyed event => (server.keyed.step runtime event).map server.serve
  | .authorized err closes => match server.lifecycle.startup with
      | .authorizing => some (server.authorize setup closes err)
      | _ => none
  | .start event =>
      (server.lifecycle.start setup event).map fun lifecycle => { server with lifecycle }
  | .tick closes => match server.lifecycle.startup with
      | .started err => some (server.tick setup closes err)
      | _ => none
  | .close => some (server.close setup)
  | .stoppedWatching => match server.lifecycle.shutdown with
      | .stopping cb => some { server with lifecycle := closeAuthz server.lifecycle cb }
      | _ => none
  | .authzClosed err => match server.lifecycle.shutdown with
      | .closingAuthz cb =>
          some (({ server with lifecycle := server.lifecycle.call (.authzClosed err) }).closeTransports
            runtime cb err)
      | _ => none
  | .cont passes => match server.lifecycle.shutdown with
      | .authzFailed (some _) =>
          let (cb, lifecycle) := server.lifecycle.newCallback passes
          some (({ server with lifecycle }).cont runtime cb)
      | _ => none
  | .transportClosed index err => server.transportClosed index err
  | .cont2 passes => match server.lifecycle.shutdown with
      | .transportsFailed (some _) stages =>
          let (cb, lifecycle) := server.lifecycle.newCallback passes
          some (({ server with lifecycle }).cont2 cb stages)
      | _ => none

/-- The constructor calls the function that creates the default authorizer. -/
def system (runtime : Runtime) (setup : Setup) : TransitionSystem Server Event where
  initial := {}
  step := step runtime setup

end Server
end Centro
