import Centro.Construction.Connection
import Centro.Library.TransitionSystem

namespace Centro

open Library

/-- This part of the server handles connections. The list has one entry for each call of
`transport_connected`. -/
structure Service where
  closing : Bool := false
  shared : Shared := {}
  connections : List Connection := []

namespace Service

def put (service : Service) (number : Nat) (closure : Closure) : Service :=
  { service with
    shared := closure.shared
    connections := service.connections.set number closure.connection }

/-- The closures of one connection run on its variables and the shared members. -/
def withClosure (service : Service) (number : Nat) (body : Closure → Option Closure) :
    Option Service := do
  let connection ← service.connections[number]?
  let closure ← body ⟨service.shared, connection⟩
  some (service.put number closure)

/-- Callers outside of the connection call its function `dstroy`. -/
def dstroy (runtime : Runtime) (service : Service) (number : Nat) (now : Bool) : Service :=
  (service.withClosure number fun closure => some (closure.dstroy runtime now)).getD service

def notice (service : Service) (emitted : Notice) : Service :=
  { service with shared.notices := service.shared.notices ++ [emitted] }

/-- The function `change` listens to every keystore. Its loop does not visit a record that was
taken out of the set before its turn. -/
def change (runtime : Runtime) (service : Service) (uri : Uri) (rev : Rev) : Service :=
  let service := service.notice (.uriRevisionChange uri)
  match service.shared.connections.get uri with
  | none => service
  | some conns =>
      visitPresent
        (fun service record =>
          decide (record ∈ (service.shared.connections.get uri).getD OrderedSet.empty))
        (fun service record =>
          if record.rev ≠ rev then service.dstroy runtime record.connection false else service)
        service conns.items

/-- The function `close_transports` destroys the connections in `_connids`. -/
def destroyAll (runtime : Runtime) (service : Service) : Service :=
  visitPresent
    (fun service entry => decide (service.shared.connids.get entry.1 = some entry.2))
    (fun service entry => service.dstroy runtime entry.2 true)
    service service.shared.connids.entries

/-- A transport hands a new stream over. -/
def transportConnected (runtime : Runtime) (service : Service) (transport : Transport)
    (handshakes : List Handshake) (channel : Channel) (alreadyClosed : Bool)
    (draws : List JsString) (now : Int) : Option Service :=
  let number := service.connections.length
  let connection : Connection := { number, transport, handshakes, channel }
  let service := { service with connections := service.connections ++ [connection] }
  service.withClosure number fun closure =>
    closure.transportConnected runtime service.closing alreadyClosed draws now

/-- A keystore, named by its authorizer, raises `change`. The server itself begins to close and
destroys all connections. -/
inductive Event where
  | transportConnected (transport : Transport) (handshakes : List Handshake) (channel : Channel)
      (alreadyClosed : Bool) (draws : List JsString) (now : Int)
  | connection (number : Nat) (event : ConnectionEvent)
  | change (authz : Nat) (uri : Uri) (rev : Rev)
  | beginClosing
  | destroyAll

def step (runtime : Runtime) (service : Service) : Event → Option Service
  | .transportConnected transport handshakes channel alreadyClosed draws now =>
      service.transportConnected runtime transport handshakes channel alreadyClosed draws now
  | .connection number event =>
      service.withClosure number fun closure => closure.step runtime event
  | .change _ uri rev => some (service.change runtime uri rev)
  | .beginClosing => some { service with closing := true }
  | .destroyAll => some (service.destroyAll runtime)

/-- The service starts without connections. -/
def system (runtime : Runtime) : TransitionSystem Service Event where
  initial := {}
  step := step runtime

end Service
end Centro
