import Centro.Construction.Number
import Centro.Library.OrderedMap
import Centro.Library.TransitionSystem

namespace Centro

open Library

/-- The operator `+=` makes no number of what is undefined. -/
def JsNumber.plus : JsNumber → Option Int → JsNumber
  | .finite value, some change => .finite (value + change)
  | .infinite negative, some _ => .infinite negative
  | _, _ => .nan

/-- A client asks its `MQlobberServer` for one of these. -/
inductive SubsKind where
  | subscribe (topic : JsString)
  | unsubscribe (topic : JsString)
  | unsubscribeAll
  deriving DecidableEq

/-- A request that was passed on is first carried out, which changes so many topics, and later it is
completed. The requests of the server itself are not piped. The end of a connection makes its last
request. -/
structure SubsRequest where
  connection : Nat
  kind : SubsKind
  piped : Bool := true
  last : Bool := false
  changed : Option Nat := none
  deriving DecidableEq

namespace SubsRequest

/-- The request takes the subscription away. -/
def takes (request : SubsRequest) (subscription : Nat × JsString) : Bool :=
  match request.kind with
  | .subscribe _ => false
  | .unsubscribe topic => subscription = (request.connection, topic)
  | .unsubscribeAll => subscription.1 = request.connection

/-- The `MQlobberServer` carries out the request. -/
def carryOut (request : SubsRequest) (subs : OrderedSet (Nat × JsString)) :
    Nat × OrderedSet (Nat × JsString) :=
  match request.kind with
  | .subscribe topic =>
      if (request.connection, topic) ∈ subs then (0, subs)
      else (1, subs.add (request.connection, topic))
  | _ => (subs.items.countP request.takes, subs.filter fun subscription =>
      !request.takes subscription)

/-- The wrapped callback adds or subtracts the number it gets. -/
def change (request : SubsRequest) (n : Nat) : Int :=
  match request.kind with
  | .subscribe _ => n
  | _ => -n

end SubsRequest

/-- The callback of a request gets an error or a number of topics. -/
inductive SubsAnswer where
  | error (message : JsString)
  | done (n : Nat)
  deriving DecidableEq

/-- A connection is ended once its last request is carried out. -/
structure SubsConnection where
  opened : Bool := true
  ended : Bool := false
  deriving DecidableEq

/-- The extension `limit_active_subscriptions` counts over all connections. Each subscription in
`subs` is that of a connection. -/
structure ActiveSubscriptions where
  count : JsNumber := .zero
  connections : List SubsConnection := []
  subs : OrderedSet (Nat × JsString) := .empty
  outstanding : List SubsRequest := []
  answers : List (Nat × SubsAnswer) := []
  deriving DecidableEq

namespace ActiveSubscriptions

/-- The handler for `subscribe_requested` refuses the topic. -/
def refuses (maxSubscriptions : Nat) (state : ActiveSubscriptions) (connection : Nat)
    (topic : JsString) : Bool :=
  state.count.atLeast maxSubscriptions && !decide ((connection, topic) ∈ state.subs)

def pass (state : ActiveSubscriptions) (request : SubsRequest) : ActiveSubscriptions :=
  { state with outstanding := state.outstanding ++ [request] }

/-- The handlers of the pipeline either answer a request or pass it on. -/
def request (maxSubscriptions : Nat) (state : ActiveSubscriptions) (connection : Nat)
    (kind : SubsKind) : ActiveSubscriptions :=
  match kind with
  | .subscribe topic =>
      if state.refuses maxSubscriptions connection topic then
        { state with answers := state.answers ++ [(connection, .error
          (text "subscription limit " ++ text (toString maxSubscriptions) ++
            text " already reached: " ++ topic))] }
      else state.pass { connection, kind }
  | _ => state.pass { connection, kind }

/-- The callback of a request that did not come through the pipeline does not count. -/
def counted (state : ActiveSubscriptions) (request : SubsRequest) (n : Option Int) : JsNumber :=
  if request.piped then state.count.plus n else state.count

/-- A connection may have subscriptions of its tokens from the start. The error of a request that
fails comes without a number. -/
inductive Event where
  | connect (topics : List JsString)
  | request (connection : Nat) (kind : SubsKind)
  | finish (connection : Nat)
  | carryOut (index : Nat)
  | complete (index : Nat)
  | fail (index : Nat) (message : JsString)
  deriving DecidableEq

def step (maxSubscriptions : Nat) (state : ActiveSubscriptions) :
    Event → Option ActiveSubscriptions
  | .connect topics => some { state with
      connections := state.connections ++ [{}]
      outstanding := state.outstanding ++ topics.map fun topic =>
        { connection := state.connections.length, kind := .subscribe topic, piped := false } }
  | .request connection kind => do
      let here ← state.connections[connection]?
      if here.opened then some (state.request maxSubscriptions connection kind) else none
  | .finish connection => do
      let here ← state.connections[connection]?
      if here.opened then
        some ({ state with
          connections := state.connections.set connection { here with opened := false } }.pass
            { connection, kind := .unsubscribeAll, last := true })
      else none
  | .carryOut index => do
      let request ← state.outstanding[index]?
      let here ← state.connections[request.connection]?
      if request.changed = none ∧ here.ended = false then
        some { state with
          connections := state.connections.set request.connection
            { here with ended := request.last }
          subs := (request.carryOut state.subs).2
          outstanding := state.outstanding.set index
            { request with changed := some (request.carryOut state.subs).1 } }
      else none
  | .complete index => do
      let request ← state.outstanding[index]?
      let n ← request.changed
      some { state with
        count := state.counted request (some (request.change n))
        outstanding := state.outstanding.eraseIdx index
        answers := state.answers ++ [(request.connection, .done n)] }
  | .fail index message => do
      let request ← state.outstanding[index]?
      if request.changed = none then
        some { state with
          count := state.counted request none
          outstanding := state.outstanding.eraseIdx index
          answers := state.answers ++ [(request.connection, .error message)] }
      else none

/-- The extension is attached before any client connects. -/
def system (maxSubscriptions : Nat) : TransitionSystem ActiveSubscriptions Event where
  initial := {}
  step := step maxSubscriptions

end ActiveSubscriptions
end Centro
