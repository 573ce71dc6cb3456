import Centro.Construction.Client

namespace Centro

open Library

/-- The options of a message that a client publishes. -/
structure MessageOptions where
  single : Bool := false
  ttl : Option JsNumber := none
  deriving DecidableEq

/-- The functions of a client tell their arguments apart by type. -/
inductive Argument where
  | undefined
  | number (value : JsNumber)
  | string (value : JsString)
  | function (handler : Nat)
  | object (options : MessageOptions)
  deriving DecidableEq

structure Arguments where
  first : Argument := .undefined
  second : Argument := .undefined
  third : Argument := .undefined
  fourth : Argument := .undefined
  deriving DecidableEq

/-- Without a number in front the other arguments move by one place, and `n` is zero. -/
def Arguments.shift (arguments : Arguments) : JsNumber × Arguments :=
  match arguments.first with
  | .number n => (n, { arguments with first := .undefined })
  | topic => (.zero,
      { second := topic, third := arguments.second, fourth := arguments.third })

/-- An application function is called back or invoked, a call is passed on to the `mqlobber` client,
or `unsub` runs. -/
inductive ClientCall where
  | tokenOutOfRange (client : Nat)
  | publish (client : Nat) (topic : JsString) (options : Option MessageOptions)
  | subscribe (client : Nat) (topic : JsString) (handler2 : Handler2)
  | unsubscribe (client : Nat) (topic : JsString) (target : Target)
  | unsub (client handler : Nat) (topic : JsString)
  | invoke (handler2 : Handler2) (topic : JsString)
  deriving DecidableEq

/-- The functions of one client see its state and the properties of all handlers. -/
structure Session where
  number : Nat
  client : Client
  centroSubs : CentroSubs
  calls : List ClientCall

namespace Session

def call (session : Session) (made : ClientCall) : Session :=
  { session with calls := session.calls ++ [made] }

def unsub (session : Session) (topic : JsString) (handler : Nat) : Target × Session :=
  let (target, centroSubs) := session.centroSubs.unsub session.number handler topic
  (target, ({ session with centroSubs }).call (.unsub session.number handler topic))

/-- The loops over the handlers of a topic. -/
def unsubAll (session : Session) (topic : JsString) : Session :=
  (session.client.handlersOf topic).items.foldl
    (fun session handler2 => (session.unsub topic handler2.handler).2) session

def passSubscribe (session : Session) (topic : JsString) (handler2 : Handler2) : Session :=
  ({ session with client := session.client.origSubscribe topic handler2 }).call
    (.subscribe session.number topic handler2)

def passUnsubscribe (session : Session) (topic : JsString) (target : Target)
    (sweep : Option Sweep) : Session :=
  ({ session with client := session.client.origUnsubscribe topic target sweep }).call
    (.unsubscribe session.number topic target)

/-- The iterator of `eachSeries` goes on to the next topic in the scope. The topic is in `subs`, so
the server is asked. -/
def sweep (session : Session) (sweep : Sweep) : Session :=
  match session.client.subs.entries.find? fun entry =>
      decide (sweep.place ≤ entry.2.place) && sweep.scope.isPrefixOf entry.1 with
  | none => session
  | some (topic, subscribers) =>
      (session.unsubAll topic).passUnsubscribe topic .all
        (some { sweep with place := subscribers.place + 1 })

/-- The function `publish`. It throws when the topic is no string. -/
def publish (session : Session) (arguments : Arguments) : Option Session :=
  let (n, arguments) := arguments.shift
  let options := match arguments.third with
    | .object options => some options
    | _ => none
  if n.atLeast session.client.prefixes.length then
    some (session.call (.tokenOutOfRange session.number))
  else match arguments.second with
    | .string topic =>
        some (session.call (.publish session.number (session.client.scopedTopic n topic) options))
    | _ => none

/-- The function `subscribe`. It throws when the topic is no string or there is no handler. -/
def subscribe (session : Session) (arguments : Arguments) : Option Session :=
  let (n, arguments) := arguments.shift
  if n.atLeast session.client.prefixes.length then
    some (session.call (.tokenOutOfRange session.number))
  else match arguments.second, arguments.third with
    | .string topic, .function handler =>
        let topic := session.client.scopedTopic n topic
        let (handler2, centroSubs) := session.centroSubs.wrap session.number handler n topic
        some (({ session with centroSubs }).passSubscribe topic handler2)
    | _, _ => none

/-- The function `unsubscribe`. It throws when the topic is neither missing nor a string. A handler
that is neither missing nor a function is left out. -/
def unsubscribe (session : Session) (arguments : Arguments) : Option Session :=
  let (n, arguments) := arguments.shift
  let arguments := match arguments.second with
    | .function _ => { arguments with second := .undefined, third := .undefined }
    | _ => arguments
  if n.atLeast session.client.prefixes.length then
    some (session.call (.tokenOutOfRange session.number))
  else match arguments.second, arguments.third with
    | .undefined, _ => some (session.sweep { scope := session.client.element n.index, place := 0 })
    | .string topic, .undefined =>
        let topic := session.client.scopedTopic n topic
        some ((session.unsubAll topic).passUnsubscribe topic .all none)
    | .string topic, .function handler =>
        let topic := session.client.scopedTopic n topic
        let (target, session) := session.unsub topic handler
        some (session.passUnsubscribe topic target none)
    | _, _ => none

/-- An error leaves everything as it is and ends a loop. -/
def answered (session : Session) (request : Request) (ok : Bool) : Session :=
  if ok then match request.kind with
    | .subscribe handler2 =>
        { session with client := session.client.subscribed request.topic handler2 }
    | .unsubscribe target =>
        let session := { session with client := session.client.unsubscribed request.topic target }
        match request.sweep with
        | none => session
        | some sweep => session.sweep sweep
  else session

/-- The server answers its requests in any order. -/
def response (session : Session) (index : Nat) (ok : Bool) : Option Session :=
  session.client.requests[index]?.map fun request =>
    ({ session with client.requests := session.client.requests.eraseIdx index }).answered request ok

end Session

/-- An application has clients and handlers. -/
structure Application where
  clients : List Client := []
  centroSubs : CentroSubs := {}
  calls : List ClientCall := []

namespace Application

inductive Operation where
  | publish
  | subscribe
  | unsubscribe
  deriving DecidableEq

/-- A client receives its handshake, the application calls a function of it, the server answers a
request, or the matcher of a client calls a closure with a message. -/
inductive Event where
  | ready (greeting : Greeting)
  | call (client : Nat) (operation : Operation) (arguments : Arguments)
  | response (client index : Nat) (ok : Bool)
  | deliver (handler2 : Nat) (topic : JsString)

def session? (application : Application) (number : Nat) : Option Session :=
  application.clients[number]?.map fun client =>
    { number, client, centroSubs := application.centroSubs, calls := application.calls }

def put (application : Application) (session : Session) : Application where
  clients := application.clients.set session.number session.client
  centroSubs := session.centroSubs
  calls := session.calls

/-- The closure calls its handler only while it is the one that its map holds. It throws when its
scope is missing. -/
def deliver (application : Application) (number : Nat) (topic : JsString) : Option Application := do
  let handler2 ← application.centroSubs.created[number]?
  let client ← application.clients[handler2.client]?
  if (application.centroSubs.handlers handler2.handlers).get handler2.topic = some handler2 then
    match handler2.n.index.bind fun index => client.prefixes[index]? with
    | some scope => some { application with
        calls := application.calls ++ [.invoke handler2 (client.unscoped scope topic)] }
    | none => some application
  else some application

def Operation.run : Operation → Session → Arguments → Option Session
  | .publish => Session.publish
  | .subscribe => Session.subscribe
  | .unsubscribe => Session.unsubscribe

def step (application : Application) : Event → Option Application
  | .ready greeting => some { application with
      clients := application.clients ++ [Client.ready greeting] }
  | .call number operation arguments => do
      let session ← application.session? number
      let session ← operation.run session arguments
      some (application.put session)
  | .response number index ok => do
      let session ← application.session? number
      let session ← session.response index ok
      some (application.put session)
  | .deliver number topic => application.deliver number topic

/-- The application starts without clients. -/
def system : TransitionSystem Application Event where
  initial := {}
  step := step

end Application
end Centro
