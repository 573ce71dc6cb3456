import Centro.Construction.Text
import Centro.Library.TransitionSystem

namespace Centro

open Library

/-- A socket is destroyed first, and its close is reported later. Over HTTP/2 the stream of a request
stands for its socket, since the compatibility layer passes `on` and `destroyed` on to it. -/
inductive SocketStage where
  | opened
  | destroyed
  | closed
  deriving DecidableEq

/-- The authorization of a request has no result yet, or it has succeeded or failed. -/
inductive AuthorizationStage where
  | started
  | succeeded
  | failed (message : JsString)
  deriving DecidableEq

/-- The listener that a request puts on its socket is there until the socket is closed. A response
that has finished or that was closed is over. -/
structure CountedRequest where
  socket : Nat
  listening : Bool
  stage : AuthorizationStage := .started
  isOver : Bool := false
  deriving DecidableEq

/-- The socket is closed for the request. -/
def CountedRequest.onclose (request : CountedRequest) : CountedRequest :=
  { request with listening := false, isOver := true }

/-- The extension `limit_active_connections` counts the requests of an HTTP transport. -/
structure ActiveConnections where
  count : Int := 0
  sockets : List SocketStage := []
  requests : List CountedRequest := []
  deriving DecidableEq

namespace ActiveConnections

/-- The requests whose response is not over are active. -/
def active (state : ActiveConnections) : Nat :=
  state.requests.countP fun request => !request.isOver

/-- The handler for `authz_start` counts a request. The transport calls the listener for a socket
that is destroyed at once. -/
def authzStart (maxConnections : Nat) (state : ActiveConnections) (socket : Nat)
    (stage : SocketStage) : ActiveConnections :=
  let destroyed := stage != .opened
  let count := if destroyed then state.count + 1 - 1 else state.count + 1
  { state with
    count
    requests := state.requests ++ [{
      socket
      listening := !destroyed
      stage := if count > maxConnections then
          .failed (text "connection limit " ++ text (toString maxConnections) ++ text " exceeded")
        else .started }] }

/-- The close of the socket calls all its listeners and closes its responses. -/
def closeSocket (state : ActiveConnections) (socket : Nat) : ActiveConnections :=
  { count := state.count -
      state.requests.countP fun request => request.listening && request.socket == socket
    sockets := state.sockets.set socket .closed
    requests := state.requests.map fun request =>
      if request.socket = socket then request.onclose else request }

inductive Event where
  | connection
  | request (socket : Nat)
  | authorized (request : Nat) (stage : AuthorizationStage)
  | finish (request : Nat)
  | close (request : Nat)
  | destroySocket (socket : Nat)
  | closeSocket (socket : Nat)
  deriving DecidableEq

/-- A response can finish after the authorization has a result, and it can be closed at any time. -/
def step (maxConnections : Nat) (state : ActiveConnections) : Event → Option ActiveConnections
  | .connection => some { state with sockets := state.sockets ++ [.opened] }
  | .request socket => do
      let stage ← state.sockets[socket]?
      if stage = .closed then none else some (state.authzStart maxConnections socket stage)
  | .authorized index stage => do
      let request ← state.requests[index]?
      if request.stage = .started ∧ stage ≠ .started then
        some { state with requests := state.requests.set index { request with stage } }
      else none
  | .finish index => do
      let request ← state.requests[index]?
      if request.isOver = false ∧ request.stage ≠ .started then
        some { state with requests := state.requests.set index { request with isOver := true } }
      else none
  | .close index => do
      let request ← state.requests[index]?
      if request.isOver = false then
        some { state with requests := state.requests.set index { request with isOver := true } }
      else none
  | .destroySocket socket => do
      let stage ← state.sockets[socket]?
      if stage = .opened then
        some { state with sockets := state.sockets.set socket .destroyed }
      else none
  | .closeSocket socket => do
      let stage ← state.sockets[socket]?
      if stage = .destroyed then some (state.closeSocket socket) else none

def system (maxConnections : Nat) : TransitionSystem ActiveConnections Event where
  initial := {}
  step := step maxConnections

end ActiveConnections
end Centro
