import Centro.Construction.Token
import Centro.Library.OrderedMap

namespace Centro

open Library

/-- These errors and warnings arise while the server handles one connection. -/
inductive Failure where
  | closed
  | uriRevisionChanged (uri : Uri)
  | keystore (message : JsString)
  | thrown (message : JsString)
  | shortHandshake
  | unsupportedVersion (number : Nat)
  | unknownAckTopic (topic : JsString)
  deriving DecidableEq

def Failure.message : Failure → JsString
  | .closed => text "closed"
  | .uriRevisionChanged uri => text "uri revision has changed: " ++ uri
  | .keystore message => message
  | .thrown message => message
  | .shortHandshake => text "short handshake"
  | .unsupportedVersion number => text "unsupported version: " ++ text (toString number)
  | .unknownAckTopic topic => text "unknown prefix on ack topic: " ++ topic

/-- This is the object `conn` that one call of `process_handshake` creates. Its identity is the
connection and the token it was created for. -/
structure Record where
  connection : Nat
  token : Nat
  uri : Uri
  rev : Rev
  deriving DecidableEq

/-- A pending timer either calls `schedule` again or runs the expiry action. -/
inductive Timer where
  | schedule
  | action
  deriving DecidableEq

def maxSettimeout : Int := 0x7fffffff

/-- The function `schedule` sets one timer with a delay. -/
def schedule (time now : Int) : Timer × Int :=
  if time > now then (.schedule, min (time - now) maxSettimeout) else (.action, 0)

/-- `eachSeries` is before the first token, waits for a lookup, has the callback of a token, or has
called `processed_handshakes`. -/
inductive Phase where
  | idle
  | lookup (token : Nat)
  | calledBack (token : Nat) (failure : Option Failure)
  | processed
  deriving DecidableEq

/-- The transport decides what its destroy function does and how its stream behaves. -/
structure Channel where
  closes : Bool := false
  throws : Option JsString := none
  noKeepAlive : Bool := false
  deriving DecidableEq

/-- These are the options for the constructor of `AccessControl`. -/
structure AccessControlOptions where
  publishAllow : List JsString
  publishDisallow : List JsString
  disallowSingle : Bool
  disallowMulti : Bool
  maxDataLength : Nat
  maxPublications : Nat
  subscribeAllow : List JsString
  subscribeDisallow : List JsString
  maxSubscriptions : Nat
  block : List JsString
  maxTopicLength : Option Nat
  deriving DecidableEq

structure PublishOptions where
  single : Option Bool := none
  ttl : Option Nat := none
  deriving DecidableEq

/-- The server publishes on its own behalf for these purposes. -/
inductive Purpose where
  | connect (token : Nat)
  | disconnect (token : Nat)
  | ack
  deriving DecidableEq

/-- Extensions and the client learn this about a connection. -/
structure Greeting where
  connid : JsString
  prefixes : List JsString
  subscriptions : Option (List (List (JsString × Bool)))
  deriving DecidableEq

/-- The closures of one connection make these calls, which leave `transport_connected`. -/
inductive Call where
  | warning (failure : Failure)
  | dstroy (now : Bool)
  | destroy (mqserver now : Bool)
  | setTimeout (token : Nat) (delay : Int)
  | clearTimeout (token : Nat)
  | getPubKeyByUri (token : Nat) (uri : Uri)
  | expired (connid : JsString)
  | accessControl (options : AccessControlOptions)
  | mqlobberServer (noKeepAlive : Bool)
  | subscribe (topic : JsString) (toExisting : Bool)
  | preConnect (greeting : Greeting)
  | reply (greeting : Greeting) (version : Nat)
  | connect (connid : JsString) (hsdata : List UInt8)
  | publish (purpose : Purpose) (topic : JsString) (options : PublishOptions) (data : Option JsString)
  | disconnect (connid : JsString)
  deriving DecidableEq

/-- These are the variables of one call of `transport_connected`. The presence map also notes the
token of each claim. The `number` tells calls apart and `calls` lists the calls made so far. -/
structure Connection where
  number : Nat
  transport : Transport
  handshakes : List Handshake
  channel : Channel
  accepted : Bool := false
  connid : JsString := []
  mqserver : Bool := false
  hsConns : OrderedSet Record := .empty
  timeouts : OrderedMap Nat Timer := .empty
  presence : OrderedMap JsString (Nat × Presence) := .empty
  ackPrefixes : OrderedMap JsString JsString := .empty
  closed : Bool := false
  destroyed : Bool := false
  phase : Phase := .idle
  handshaken : Bool := false
  calls : List Call := []

/-- The server emits these for no particular connection. -/
inductive Notice where
  | uriRevisionChange (uri : Uri)
  | unknownUri (uri : Uri)
  | empty
  deriving DecidableEq

def Notice.message : Notice → JsString
  | .uriRevisionChange uri => text "uri revision change: " ++ uri
  | .unknownUri uri => text "unknown uri on closed connection: " ++ uri
  | .empty => text "empty"

/-- All connections share these members of the server. -/
structure Shared where
  connids : OrderedMap JsString Nat := .empty
  connections : OrderedMap Uri (OrderedSet Record) := .empty
  notices : List Notice := []

/-- The closures of a connection see their own variables and the shared members. -/
structure Closure where
  shared : Shared
  connection : Connection

namespace Connection

/-- The maps `presence` and `ack_prefixes` use this key for a token. -/
def keyPrefix (runtime : Runtime) (connection : Connection) (hs : Handshake) : JsString :=
  if connection.transport.config.privileged then [] else (runtime.sha256hex hs.payload.iss).digits

/-- A topic scope of a connection without privileges ends with the separator. -/
def withSeparator (runtime : Runtime) (connection : Connection) (key : JsString) : JsString :=
  if connection.transport.config.privileged then key else key ++ [runtime.fsq.separator]

/-- This is the member `prefix` that `process_handshake` sets. -/
def hsPrefix (runtime : Runtime) (connection : Connection) (hs : Handshake) : JsString :=
  connection.withSeparator runtime (connection.keyPrefix runtime hs)

/-- An `AggregateTopics` object yields the scoped topics of every token. -/
def aggregateTopics (runtime : Runtime) (connection : Connection)
    (select : AccessControlClaim → List JsString) : List JsString :=
  connection.handshakes.flatMap fun hs =>
    (select hs.payload.accessControl).map fun topic =>
      connection.hsPrefix runtime hs ++ replaceSelf connection.connid topic

/-- The first token that differs from the default decides. -/
def aggregateBool (select : PublishClaim → Option Bool) (dflt : Bool) : List Handshake → Bool
  | [] => dflt
  | hs :: rest =>
      let b := (select hs.payload.accessControl.publish).getD false
      if b ≠ dflt then b else aggregateBool select dflt rest

def accessControlOptions (runtime : Runtime) (connection : Connection) : AccessControlOptions where
  publishAllow := connection.aggregateTopics runtime fun claim => claim.publish.allow
  publishDisallow := connection.aggregateTopics runtime fun claim => claim.publish.disallow
  disallowSingle := aggregateBool (fun claim => claim.disallowSingle) false connection.handshakes
  disallowMulti := aggregateBool (fun claim => claim.disallowMulti) false connection.handshakes
  maxDataLength := connection.transport.config.maxPublishDataLength
  maxPublications := connection.transport.config.maxPublications
  subscribeAllow := connection.aggregateTopics runtime fun claim => claim.subscribe.allow
  subscribeDisallow := connection.aggregateTopics runtime fun claim => claim.subscribe.disallow
  maxSubscriptions := connection.transport.config.maxSubscriptions
  block := connection.aggregateTopics runtime fun claim => claim.block.getD []
  maxTopicLength := connection.transport.config.maxTopicLength.map fun length =>
    if connection.transport.config.privileged then length else 65 + length

/-- The server subscribes the connection to the topics in its tokens. -/
def subscribeCalls (runtime : Runtime) (connection : Connection) : List Call :=
  connection.handshakes.flatMap fun hs =>
    (hs.payload.subscribe.getD []).map fun entry =>
      .subscribe (connection.hsPrefix runtime hs ++ replaceSelf connection.connid entry.1) entry.2

/-- The list of subscriptions is left out when no token has one. -/
def subscriptions (connection : Connection) : Option (List (List (JsString × Bool))) :=
  let listed := connection.handshakes.map fun hs => hs.payload.subscribe.getD []
  if listed.all List.isEmpty then none else some listed

def greeting (runtime : Runtime) (connection : Connection) : Greeting where
  connid := connection.connid
  prefixes := connection.handshakes.map (connection.hsPrefix runtime)
  subscriptions := connection.subscriptions

/-- A presence message goes to the scoped topic, and its data is written if there is any. -/
def presenceCall (runtime : Runtime) (connection : Connection) (purpose : Purpose)
    (key : JsString) (message : PresenceMessage) : Call :=
  .publish purpose (connection.withSeparator runtime key ++ replaceSelf connection.connid message.topic)
    { single := message.single
      ttl := message.ttl.map fun ttl =>
        min (if message.single = some true then runtime.fsq.singleTtl else runtime.fsq.multiTtl)
          (ttl * 1000) }
    (message.data.map (replaceSelf connection.connid))

def arrivalCalls (runtime : Runtime) (connection : Connection) : List Call :=
  connection.presence.entries.map fun (key, token, presence) =>
    connection.presenceCall runtime (.connect token) key presence.connect

def departureCalls (runtime : Runtime) (connection : Connection) : List Call :=
  connection.presence.entries.map fun (key, token, presence) =>
    connection.presenceCall runtime (.disconnect token) key presence.disconnect

/-- The listener for `ack` publishes only for a topic whose first part is a known key. -/
def ackCall (runtime : Runtime) (connection : Connection) (topic : JsString) : Call :=
  let pos := if connection.transport.config.privileged then none
    else topic.idxOf? runtime.fsq.separator
  let key := match pos with
    | some pos => topic.take pos
    | none => []
  let rest := match pos with
    | some pos => topic.drop (pos + 1)
    | none => topic
  match connection.ackPrefixes.get key with
  | none => .warning (.unknownAckTopic topic)
  | some ackPrefix =>
      .publish .ack
        (connection.withSeparator runtime key ++ replaceSelf connection.connid ackPrefix ++ rest) {} none

/-- The loop over `hs_conns` clears the timer of each record. -/
def clearTimeout (connection : Connection) (token : Nat) : Connection :=
  if connection.timeouts.has token then
    { connection with calls := connection.calls ++ [.clearTimeout token] }
  else connection

end Connection

/-- The loop over `hs_conns` takes each record out of the set for its URI. -/
def Shared.unregister (shared : Shared) (record : Record) : Shared :=
  match shared.connections.get record.uri with
  | none => { shared with notices := shared.notices ++ [.unknownUri record.uri] }
  | some conns =>
      let conns := conns.delete record
      if conns.size = 0 then { shared with connections := shared.connections.delete record.uri }
      else { shared with connections := shared.connections.set record.uri conns }

def Shared.register (shared : Shared) (record : Record) : Shared :=
  let conns := (shared.connections.get record.uri).getD .empty
  { shared with connections := shared.connections.set record.uri (conns.add record) }

namespace Closure

def call (closure : Closure) (made : Call) : Closure :=
  { closure with connection.calls := closure.connection.calls ++ [made] }

def callAll (closure : Closure) (made : List Call) : Closure :=
  { closure with connection.calls := closure.connection.calls ++ made }

/-- The function `conn_closed`. -/
def connClosed (runtime : Runtime) (closure : Closure) : Closure :=
  let records := closure.connection.hsConns.items
  let connection := records.foldl (fun connection record => connection.clearTimeout record.token)
    { closure.connection with closed := true }
  let shared := records.foldl Shared.unregister closure.shared
  let shared := { shared with connids := shared.connids.delete connection.connid }
  let connection := { connection with
    hsConns := .empty
    timeouts := .empty
    calls := connection.calls ++ [.disconnect connection.connid] ++ connection.departureCalls runtime }
  { connection
    shared := if shared.connids.size = 0 then { shared with notices := shared.notices ++ [.empty] }
      else shared }

/-- The call of the transport's destroy function catches an exception. Once `onclose` has the
listener, the transport may report the close before the call returns. -/
def invokeDestroy (runtime : Runtime) (closure : Closure) (now : Bool) : Closure :=
  let closure := closure.call (.destroy closure.connection.mqserver now)
  let closure := if closure.connection.channel.closes && closure.connection.accepted then
    closure.connClosed runtime else closure
  match closure.connection.channel.throws with
  | some message => closure.call (.warning (.thrown message))
  | none => closure

/-- The function `dstroy`. -/
def dstroy (runtime : Runtime) (closure : Closure) (now : Bool) : Closure :=
  let closure := closure.call (.dstroy now)
  if !closure.connection.destroyed && !closure.connection.closed then
    let closure := closure.invokeDestroy runtime now
    { closure with connection.destroyed := true }
  else closure

/-- The functions that `make_update` and `make_destroy` return store and clear the timer. -/
def setTimer (closure : Closure) (token : Nat) (timer : Timer × Int) : Closure :=
  ({ closure with connection.timeouts := closure.connection.timeouts.set token timer.1 }).call
    (.setTimeout token timer.2)

/-- The function `process_handshake`. -/
def processHandshake (runtime : Runtime) (closure : Closure) (token : Nat) (hs : Handshake)
    (now : Int) : Closure :=
  if closure.connection.closed then
    { closure with connection.phase := .calledBack token (some .closed) }
  else
    let key := closure.connection.keyPrefix runtime hs
    let closure := match hs.payload.ack with
      | some ackPrefix =>
          { closure with connection.ackPrefixes := closure.connection.ackPrefixes.set key ackPrefix }
      | none => closure
    let closure := match hs.payload.presence with
      | some presence =>
          { closure with connection.presence := closure.connection.presence.set key (token, presence) }
      | none => closure
    let record : Record :=
      { connection := closure.connection.number, token := token, uri := hs.uri, rev := hs.rev }
    let closure := { closure with connection.hsConns := closure.connection.hsConns.add record }
    let closure := match hs.payload.exp with
      | some exp => closure.setTimer token (schedule (exp * 1000) now)
      | none => closure
    let closure := { closure with shared := closure.shared.register record }
    let closure := closure.call (.getPubKeyByUri token hs.uri)
    { closure with connection.phase := .lookup token }

/-- The rest of `processed_handshakes` puts the connection into service. -/
def enterService (runtime : Runtime) (closure : Closure) : Closure :=
  let connection := closure.connection
  let closure := closure.callAll
    ([.accessControl (connection.accessControlOptions runtime),
      .mqlobberServer connection.channel.noKeepAlive] ++ connection.subscribeCalls runtime ++
      [.preConnect (connection.greeting runtime)])
  { closure with connection.mqserver := true }

/-- The function `processed_handshakes`. -/
def processedHandshakes (runtime : Runtime) (closure : Closure) (failure : Option Failure) : Closure :=
  let closure := { closure with connection.phase := .processed }
  match failure with
  | some failure => (closure.call (.warning failure)).dstroy runtime false
  | none =>
      if closure.connection.closed then closure.call (.warning .closed)
      else closure.enterService runtime

/-- `eachSeries` takes the next token or ends. -/
def nextHandshake (runtime : Runtime) (closure : Closure) (token : Nat) (now : Int) : Closure :=
  match closure.connection.handshakes[token]? with
  | some hs => closure.processHandshake runtime token hs now
  | none => closure.processedHandshakes runtime none

/-- The function `got_pub_key` calls back with an error or with nothing. -/
def gotPubKey (closure : Closure) (token : Nat) (hs : Handshake) (result : Except JsString Rev) :
    Closure :=
  let failure := match result with
    | .error message => some (.keystore message)
    | .ok rev => if hs.rev ≠ rev then some (.uriRevisionChanged hs.uri) else none
  { closure with connection.phase := .calledBack token failure }

/-- A timer fires: it schedules again, or the token expired. -/
def timeout (runtime : Runtime) (closure : Closure) (token : Nat) (now : Int) : Option Closure := do
  let timer ← closure.connection.timeouts.get token
  let hs ← closure.connection.handshakes[token]?
  match timer with
  | .schedule =>
      let exp ← hs.payload.exp
      some (closure.setTimer token (schedule (exp * 1000) now))
  | .action =>
      let closure := { closure with connection.timeouts := closure.connection.timeouts.delete token }
      some ((closure.call (.expired closure.connection.connid)).dstroy runtime false)

/-- The method `readUInt32BE(0)` of a buffer. -/
def readUInt32BE (buffer : List UInt8) : Nat :=
  (buffer.take 4).foldl (fun value byte => value * 256 + byte.toNat) 0

/-- The listener for the event `handshake` of the `MQlobberServer`. -/
def handshake (runtime : Runtime) (closure : Closure) (hsdata : List UInt8) : Closure :=
  let closure := { closure with connection.handshaken := true }
  if hsdata.length < 4 then closure.call (.warning .shortHandshake)
  else
    let closure := closure.call (.reply (closure.connection.greeting runtime) version)
    let clientVersion := readUInt32BE hsdata
    if clientVersion ≠ version then
      (closure.call (.warning (.unsupportedVersion clientVersion))).dstroy runtime false
    else
      (closure.call (.connect closure.connection.connid (hsdata.drop 4))).callAll
        (closure.connection.arrivalCalls runtime)

/-- The function `transport_connected` loops until it draws an id that is not in use. -/
def transportConnected (runtime : Runtime) (closure : Closure) (closing alreadyClosed : Bool)
    (draws : List JsString) (now : Int) : Option Closure :=
  if closing then some (closure.dstroy runtime false)
  else do
    let connid ← draws.find? fun draw => !closure.shared.connids.has draw
    let closure := { closure with
      shared.connids := closure.shared.connids.set connid closure.connection.number
      connection.connid := connid
      connection.accepted := true }
    let closure := if alreadyClosed then closure.connClosed runtime else closure
    some (closure.nextHandshake runtime 0 now)

end Closure

/-- The keystore, the event loop, the transport, `mqlobber` and extensions cause these events of
one connection. -/
inductive ConnectionEvent where
  | gotPubKey (result : Except JsString Rev)
  | resume (now : Int)
  | timeout (token : Nat) (now : Int)
  | closed
  | handshake (hsdata : List UInt8)
  | ack (topic : JsString)
  | dstroy (now : Bool)

/-- A lookup calls back once, a close is reported once, and `mqlobber` emits `handshake` once. -/
def Closure.step (runtime : Runtime) (closure : Closure) : ConnectionEvent → Option Closure
  | .gotPubKey result => match closure.connection.phase with
      | .lookup token => closure.connection.handshakes[token]?.map fun hs =>
          closure.gotPubKey token hs result
      | _ => none
  | .resume now => match closure.connection.phase with
      | .calledBack _ (some failure) => some (closure.processedHandshakes runtime (some failure))
      | .calledBack token none => some (closure.nextHandshake runtime (token + 1) now)
      | _ => none
  | .timeout token now => closure.timeout runtime token now
  | .closed =>
      if closure.connection.accepted && !closure.connection.closed then some (closure.connClosed runtime)
      else none
  | .handshake hsdata =>
      if closure.connection.mqserver && !closure.connection.handshaken then
        some (closure.handshake runtime hsdata)
      else none
  | .ack topic =>
      if closure.connection.mqserver && closure.connection.ackPrefixes.size ≠ 0 then
        some (closure.call (closure.connection.ackCall runtime topic))
      else none
  | .dstroy now => some (closure.dstroy runtime now)

end Centro
