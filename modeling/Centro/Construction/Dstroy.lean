import Centro.Construction.Text
import Centro.Library.TransitionSystem

namespace Centro

open Library

/-- The function `dstroy` invokes the transport's destroy function and warns of its exceptions. The
transport reports the close of the connection. -/
inductive DstroyCall where
  | destroy (mqserver now : Bool)
  | warning (message : JsString)
  | closed
  deriving DecidableEq

/-- These are the variables that `dstroy` reads and sets. The destroy function may be foreign code
that has not returned from so many calls. -/
structure Dstroy where
  accepted : Bool := false
  mqserver : Bool := false
  closed : Bool := false
  destroyed : Bool := false
  running : Nat := 0
  calls : List DstroyCall := []

namespace Dstroy

def call (state : Dstroy) (made : DstroyCall) : Dstroy :=
  { state with calls := state.calls ++ [made] }

/-- The server takes the connection and puts it into service, some code calls `dstroy`, the destroy
function returns or throws, or the transport reports the close. -/
inductive Event where
  | accepted
  | served
  | dstroy (now : Bool)
  | returned (throws : Option JsString)
  | closed

/-- The flag `destroyed` is set after the destroy function. A close is reported once and to a
connection that the server has taken. -/
def step (state : Dstroy) : Event → Option Dstroy
  | .accepted => if state.accepted then none else some { state with accepted := true }
  | .served => if state.mqserver then none else some { state with mqserver := true }
  | .dstroy now =>
      if !state.destroyed && !state.closed then
        some ({ state with running := state.running + 1 }.call (.destroy state.mqserver now))
      else some state
  | .returned throws =>
      if state.running = 0 then none
      else
        let state := { state with running := state.running - 1, destroyed := true }
        some (match throws with
          | some message => state.call (.warning message)
          | none => state)
  | .closed =>
      if state.accepted && !state.closed then some ({ state with closed := true }.call .closed)
      else none

def system : TransitionSystem Dstroy Event where
  initial := {}
  step := step

end Dstroy
end Centro
