import Centro.Library.Emitter
import Centro.Library.TransitionSystem

namespace Centro

open Library

/-- The extension delays the responses to these requests. -/
inductive BackoffRequest where
  | subscribe
  | unsubscribe
  | unsubscribeAll
  | publish
  deriving DecidableEq

/-- A request that completed has a callback to be called with these arguments. -/
structure DelayedResponse (Arguments : Type*) where
  number : Nat
  request : BackoffRequest
  arguments : Arguments
  deriving DecidableEq

/-- The `MQlobberServer` of a connection carries the property of the extension and the one-shot
listeners for `drain`. The responses that were invoked are noted with the property at the time. -/
structure Backoff (Arguments : Type*) where
  boProp : Bool := false
  drain : Emitter (DelayedResponse Arguments) := {}
  completed : List (DelayedResponse Arguments) := []
  invoked : List (DelayedResponse Arguments × Bool) := []

namespace Backoff

variable {Arguments : Type*} [DecidableEq Arguments]

/-- The emission of `drain` may have called a listener. -/
def invoke (backoff : Backoff Arguments)
    (called : Option (DelayedResponse Arguments) × Emitter (DelayedResponse Arguments)) :
    Backoff Arguments :=
  { backoff with
    drain := called.2
    invoked := backoff.invoked ++ (called.1.map fun response => (response, backoff.boProp)).toList }

/-- This is the function that `delay_response` returns. -/
def delayResponse (backoff : Backoff Arguments) (response : DelayedResponse Arguments) :
    Backoff Arguments :=
  let backoff := { backoff with completed := backoff.completed ++ [response] }
  if backoff.boProp then { backoff with drain := backoff.drain.once response }
  else backoff.invoke (some response, backoff.drain.enter)

/-- The listener that `pre_connect` adds for `drain` comes before the one-shot listeners. -/
def drained (backoff : Backoff Arguments) : Backoff Arguments :=
  { backoff with boProp := false }.invoke backoff.drain.emit

/-- A request completes, the `MQlobberServer` emits an event, or the callback that was invoked last
returns. -/
inductive Event (Arguments : Type*) where
  | completed (request : BackoffRequest) (arguments : Arguments)
  | backoff
  | drain
  | returned

/-- Every event may occur while callbacks run. -/
def step (backoff : Backoff Arguments) : Event Arguments → Option (Backoff Arguments)
  | .completed request arguments =>
      some (backoff.delayResponse { number := backoff.completed.length, request, arguments })
  | .backoff => some { backoff with boProp := true }
  | .drain => some backoff.drained
  | .returned => backoff.drain.resume.map backoff.invoke

def system : TransitionSystem (Backoff Arguments) (Event Arguments) where
  initial := {}
  step := step

end Backoff
end Centro
