import Centro.Construction.Connection
import Centro.Construction.Number
import Centro.Library.TransitionSystem

namespace Centro

open Library

/-- This is the closure `handler2` that a call of `subscribe` makes. It holds on to the map
`handlers` of that call. -/
structure Handler2 where
  number : Nat
  client : Nat
  handler : Nat
  n : JsNumber
  topic : JsString
  handlers : Nat
  deriving DecidableEq

/-- Each function of the application has a property `_centro_subs`, which maps clients to maps. A
map of handlers is an object, so a closure still sees it after the property was deleted. -/
structure CentroSubs where
  clients : OrderedMap Nat (OrderedMap Nat Nat) := .empty
  maps : List (OrderedMap JsString Handler2) := []
  created : List Handler2 := []

namespace CentroSubs

/-- The map of a client in the property of a handler. -/
def find (subs : CentroSubs) (client handler : Nat) : Option Nat :=
  (subs.clients.get handler).bind fun centroSubs => centroSubs.get client

def handlers (subs : CentroSubs) (map : Nat) : OrderedMap JsString Handler2 :=
  subs.maps[map]?.getD .empty

/-- The closure that the property of a handler holds for a client and a topic. -/
def mapped (subs : CentroSubs) (client handler : Nat) (topic : JsString) : Option Handler2 :=
  (subs.find client handler).bind fun map => (subs.handlers map).get topic

/-- The first part of `subscribe` finds the map of the client or makes one. -/
def obtain (subs : CentroSubs) (client handler : Nat) : Nat × CentroSubs :=
  let centroSubs := (subs.clients.get handler).getD .empty
  match centroSubs.get client with
  | some map => (map, subs)
  | none => (subs.maps.length,
      { subs with
        clients := subs.clients.set handler (centroSubs.set client subs.maps.length)
        maps := subs.maps ++ [.empty] })

/-- The second part of `subscribe` finds the closure of the topic or makes one. -/
def wrap (subs : CentroSubs) (client handler : Nat) (n : JsNumber) (topic : JsString) :
    Handler2 × CentroSubs :=
  let (map, subs) := subs.obtain client handler
  match (subs.handlers map).get topic with
  | some handler2 => (handler2, subs)
  | none =>
      let handler2 : Handler2 :=
        { number := subs.created.length, client, handler, n, topic, handlers := map }
      (handler2,
        { subs with
          maps := subs.maps.set map ((subs.handlers map).set topic handler2)
          created := subs.created ++ [handler2] })

/-- The last part of `unsub` deletes a client whose map is empty. -/
def drop (subs : CentroSubs) (client handler : Nat) (centroSubs : OrderedMap Nat Nat) : CentroSubs :=
  let centroSubs := centroSubs.delete client
  { subs with
    clients := if centroSubs.size = 0 then subs.clients.delete handler
      else subs.clients.set handler centroSubs }

end CentroSubs

/-- The function `unsubscribe` of `mqlobber` gets a closure, another function or nothing, which
stands for every handler of the topic. -/
inductive Target where
  | all
  | handler2 (closure : Handler2)
  | handler (handler : Nat)
  deriving DecidableEq

/-- The function `unsub` deletes the closure of a handler and returns it. Without one it returns
the handler. -/
def CentroSubs.unsub (subs : CentroSubs) (client handler : Nat) (topic : JsString) :
    Target × CentroSubs :=
  match subs.clients.get handler with
  | none => (.handler handler, subs)
  | some centroSubs => match centroSubs.get client with
      | none => (.handler handler, subs)
      | some map => match (subs.handlers map).get topic with
          | none => (.handler handler, subs)
          | some handler2 =>
              let handlers := (subs.handlers map).delete topic
              let subs := { subs with maps := subs.maps.set map handlers }
              (.handler2 handler2,
                if handlers.size = 0 then subs.drop client handler centroSubs else subs)

/-- An iterator over `subs` visits topics in the order of their places. -/
structure Subscribers where
  place : Nat
  handlers : OrderedSet Handler2
  deriving DecidableEq

/-- The loop of `unsubscribe(n)` goes on when the server answers. -/
structure Sweep where
  scope : JsString
  place : Nat
  deriving DecidableEq

inductive RequestKind where
  | subscribe (handler2 : Handler2)
  | unsubscribe (target : Target)
  deriving DecidableEq

/-- The server has not answered this request yet. -/
structure Request where
  topic : JsString
  kind : RequestKind
  sweep : Option Sweep := none
  deriving DecidableEq

/-- A client has the handshake data `self` and `prefixes`. The rest belongs to its `mqlobber`
client. -/
structure Client where
  self : JsString
  prefixes : List JsString
  subs : OrderedMap JsString Subscribers := .empty
  places : Nat := 0
  requests : List Request := []

namespace Client

/-- An element that is missing reads as `undefined` in a string. -/
def element (client : Client) (index : Option Nat) : JsString :=
  (index.bind fun index => client.prefixes[index]?).getD (text "undefined")

/-- The topic that the client passes on. -/
def scopedTopic (client : Client) (n : JsNumber) (topic : JsString) : JsString :=
  client.element n.index ++ replaceSelf client.self topic

/-- A topic that is present keeps its place. -/
def setHandlers (client : Client) (topic : JsString) (handlers : OrderedSet Handler2) : Client :=
  match client.subs.get topic with
  | some subscribers => { client with subs := client.subs.set topic { subscribers with handlers } }
  | none =>
      { client with
        subs := client.subs.set topic { place := client.places, handlers }
        places := client.places + 1 }

def handlersOf (client : Client) (topic : JsString) : OrderedSet Handler2 :=
  ((client.subs.get topic).map Subscribers.handlers).getD .empty

/-- This is the function `done` of `subscribe` without an error. -/
def subscribed (client : Client) (topic : JsString) (handler2 : Handler2) : Client :=
  client.setHandlers topic ((client.handlersOf topic).add handler2)

/-- These handlers are left when the target is gone. -/
def remaining (handlers : OrderedSet Handler2) : Target → OrderedSet Handler2
  | .all => .empty
  | .handler2 closure => handlers.delete closure
  | .handler _ => handlers

/-- This is the function `done` of `unsubscribe` without an error. -/
def unsubscribed (client : Client) (topic : JsString) (target : Target) : Client :=
  match client.subs.get topic with
  | none => client
  | some subscribers =>
      if (remaining subscribers.handlers target).size = 0 then
        { client with subs := client.subs.delete topic }
      else client.setHandlers topic (remaining subscribers.handlers target)

def ask (client : Client) (request : Request) : Client :=
  { client with requests := client.requests ++ [request] }

/-- The function `_orig_subscribe`. -/
def origSubscribe (client : Client) (topic : JsString) (handler2 : Handler2) : Client :=
  if client.subs.has topic then client.subscribed topic handler2
  else client.ask { topic, kind := .subscribe handler2 }

/-- The server is asked to unsubscribe a topic when its last handler goes. -/
def asks (client : Client) (topic : JsString) (target : Target) : Bool :=
  match client.subs.get topic with
  | none => false
  | some subscribers => match target with
      | .all => true
      | .handler2 closure => subscribers.handlers.size ≤ 1 && closure ∈ subscribers.handlers
      | .handler _ => false

/-- The function `_orig_unsubscribe`. -/
def origUnsubscribe (client : Client) (topic : JsString) (target : Target)
    (sweep : Option Sweep) : Client :=
  if client.asks topic target then client.ask { topic, kind := .unsubscribe target, sweep }
  else client.unsubscribed topic target

/-- The server has subscribed the connection to these topics. -/
def preSubscribed (client : Client) (subscriptions : List (List (JsString × Bool))) :
    List JsString :=
  subscriptions.zipIdx.flatMap fun (subscription, index) =>
    subscription.map fun entry => client.element (some index) ++ entry.1

/-- The listener for `handshake` takes these data from the reply of the server. -/
def ready (greeting : Greeting) : Client :=
  let client : Client := { self := greeting.connid, prefixes := greeting.prefixes }
  (client.preSubscribed (greeting.subscriptions.getD [])).foldl
    (fun client topic => client.setHandlers topic .empty) client

/-- A handler gets the topic of a message without its scope. -/
def unscoped (client : Client) (scope topic : JsString) : JsString :=
  let topic := topic.drop scope.length
  join (text "$\x7bself\x7d")
    (if client.self = [] then topic.map fun unit => [unit] else split client.self topic)

end Client
end Centro
