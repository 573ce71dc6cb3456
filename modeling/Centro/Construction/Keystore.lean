import Centro.Construction.Service

namespace Centro

open Library

/-- A keystore has a current revision for each URI with a key. It announces each update later and
in order, and no update gives a URI a revision that the URI had before. -/
structure Keystore where
  revs : OrderedMap Uri JsString := .empty
  used : List (Uri × JsString) := []
  changes : List (Uri × Rev) := []

namespace Keystore

def current (keystore : Keystore) (uri : Uri) : Rev := keystore.revs.get uri

def update (keystore : Keystore) (uri : Uri) (revs : OrderedMap Uri JsString) (announced : Rev) :
    Option Keystore :=
  if announced.any (fun rev => (uri, rev) ∈ keystore.used) then none
  else some
    { revs
      used := announced.toList.map (fun rev => (uri, rev)) ++ keystore.used
      changes := keystore.changes ++ [(uri, announced)] }

def addPubKey (keystore : Keystore) (uri : Uri) (rev : JsString) : Option Keystore :=
  keystore.update uri (keystore.revs.set uri rev) (some rev)

/-- The removal of a key may have a revision of its own. -/
def removePubKey (keystore : Keystore) (uri : Uri) (announced : Rev) : Option Keystore :=
  keystore.update uri (keystore.revs.delete uri) announced

end Keystore

namespace Connection

/-- The connection waits for the callback of `get_pub_key_by_uri`. -/
def lookupUri (connection : Connection) : Option Uri := match connection.phase with
  | .lookup token => connection.handshakes[token]?.map Handshake.uri
  | _ => none

end Connection

/-- The service runs on the keystores of its authorizers. The outstanding lookup of a connection
calls back with a revision that was seen since its call. -/
structure KeyedService where
  service : Service := {}
  keystores : Nat → Keystore := fun _ => {}
  seen : Nat → List Rev := fun _ => []

namespace KeyedService

/-- A change comes from its keystore, and a lookup answers with a revision that was seen. -/
def answers (state : KeyedService) : Service.Event → Bool
  | .change _ _ _ => false
  | .connection number (.gotPubKey (.ok rev)) => rev ∈ state.seen number
  | _ => true

/-- The event may call `get_pub_key_by_uri` for this connection. -/
def looksUp (state : KeyedService) : Service.Event → Option Nat
  | .transportConnected _ _ _ _ _ _ => some state.service.connections.length
  | .connection number (.resume _) => some number
  | _ => none

/-- A new lookup sees the current revision. -/
def look (state : KeyedService) (number : Nat) : KeyedService :=
  { state with
    seen := Function.update state.seen number (match state.service.connections[number]? with
      | some connection => match connection.lookupUri with
          | some uri => [(state.keystores connection.transport.authz).current uri]
          | none => []
      | none => []) }

/-- The outstanding lookups of the URI in the keystore see its new revision. -/
def update (state : KeyedService) (authz : Nat) (uri : Uri) (keystore : Keystore) : KeyedService :=
  { state with
    keystores := Function.update state.keystores authz keystore
    seen := fun number => match state.service.connections[number]? with
      | some connection =>
          if connection.transport.authz = authz ∧ connection.lookupUri = some uri then
            keystore.current uri :: state.seen number
          else state.seen number
      | none => state.seen number }

/-- The service takes a step, a key is added or removed, or a keystore raises its next change. -/
inductive Event where
  | service (event : Service.Event)
  | addPubKey (authz : Nat) (uri : Uri) (rev : JsString)
  | removePubKey (authz : Nat) (uri : Uri) (announced : Rev)
  | deliver (authz : Nat)

def step (runtime : Runtime) (state : KeyedService) : Event → Option KeyedService
  | .service event =>
      if state.answers event then
        (state.service.step runtime event).map fun service =>
          match state.looksUp event with
          | some number => { state with service }.look number
          | none => { state with service }
      else none
  | .addPubKey authz uri rev =>
      ((state.keystores authz).addPubKey uri rev).map (state.update authz uri)
  | .removePubKey authz uri announced =>
      ((state.keystores authz).removePubKey uri announced).map (state.update authz uri)
  | .deliver authz => match (state.keystores authz).changes with
      | [] => none
      | (uri, rev) :: changes =>
          (state.service.step runtime (.change authz uri rev)).map fun service =>
            { state with
              service
              keystores := Function.update state.keystores authz
                { state.keystores authz with changes } }

/-- The keystores start without keys. -/
def system (runtime : Runtime) : TransitionSystem KeyedService Event where
  initial := {}
  step := step runtime

end KeyedService
end Centro
