import Centro.Construction.Text
import Centro.Library.TransitionSystem

namespace Centro

open Library

/-- The variable `decrement` of a publication is its own function first and the callback later. -/
inductive Decrement where
  | own
  | cb
  deriving DecidableEq

/-- A client asks its `MQlobberServer` to publish. -/
structure PublishRequest (Stream Options : Type*) where
  connection : Nat
  topic : JsString
  stream : Stream
  options : Options

/-- The callback of a request gets an error or the arguments of a completion. -/
inductive PublishAnswer (Arguments : Type*) where
  | error (message : JsString)
  | arguments (arguments : Arguments)

variable (Stream Options Arguments : Type*)

/-- The handler for `publish_requested` passes a request on or calls its callback. The callback
`cb2` that it passed on is called for a publication. -/
inductive PublishCall where
  | refused (request : PublishRequest Stream Options) (answer : PublishAnswer Arguments)
  | next (publication : Nat) (request : PublishRequest Stream Options)
  | cb2 (publication : Nat) (arguments : Arguments)
  | cb (publication : Nat) (answer : PublishAnswer Arguments)

/-- The extension `limit_active_publications` counts over all connections. Each publication that it
accepted has its own variable. -/
structure ActivePublications where
  count : Int := 0
  publications : List Decrement := []
  calls : List (PublishCall Stream Options Arguments) := []

/-- A client of some connection asks to publish, or the callback of a publication is called. -/
inductive PublishEvent where
  | requested (request : PublishRequest Stream Options)
  | completed (publication : Nat) (arguments : Arguments)

namespace ActivePublications

variable {Stream Options Arguments : Type*}

/-- This is the handler for `publish_requested`. -/
def publishRequested (maxPublications : Nat) (state : ActivePublications Stream Options Arguments)
    (request : PublishRequest Stream Options) : ActivePublications Stream Options Arguments :=
  if state.count ≥ maxPublications then
    let message := text "publication limit " ++ text (toString maxPublications) ++
      text " already reached: " ++ request.topic
    { state with calls := state.calls ++ [.refused request (.error message)] }
  else { state with
    count := state.count + 1
    publications := state.publications ++ [.own]
    calls := state.calls ++ [.next state.publications.length request] }

/-- The function `cb2` calls what `decrement` is, after it set this to the callback. -/
def cb2 (state : ActivePublications Stream Options Arguments) (publication : Nat)
    (decrement : Decrement) (arguments : Arguments) : ActivePublications Stream Options Arguments :=
  { count := match decrement with
      | .own => state.count - 1
      | .cb => state.count
    publications := state.publications.set publication .cb
    calls := state.calls ++ [.cb2 publication arguments, .cb publication (.arguments arguments)] }

/-- What the callbacks and the later handlers do comes last in each step, so more requests and
completions may follow from inside it. -/
def step (maxPublications : Nat) (state : ActivePublications Stream Options Arguments) :
    PublishEvent Stream Options Arguments → Option (ActivePublications Stream Options Arguments)
  | .requested request => some (state.publishRequested maxPublications request)
  | .completed publication arguments =>
      state.publications[publication]?.map fun decrement =>
        state.cb2 publication decrement arguments

def system (maxPublications : Nat) : TransitionSystem (ActivePublications Stream Options Arguments)
    (PublishEvent Stream Options Arguments) where
  initial := {}
  step := step maxPublications

end ActivePublications
end Centro
