import Mathlib.Tactic.TypeStar
import Mathlib.Tactic.Common

namespace Centro.Library

/-- A layer refuses a request with an answer, or it passes a request on. It passes an answer back or
keeps it. After a refusal went back it may do more. -/
structure Layer (State Request Answer : Type*) where
  request : State → Request → State × Except Answer Request
  refused : State → Request → State
  answer : State → Answer → State × Option Answer

namespace Layer

variable {State Request Answer : Type*}

/-- An answer goes back through the layers below a level, and the outermost one answers the top. -/
def ascend (layers : Nat → Layer State Request Answer) (top : State → Answer → State) :
    Nat → State → Answer → State
  | 0, state, answer => top state answer
  | level + 1, state, answer =>
      match (layers level).answer state answer with
      | (next, none) => next
      | (next, some passed) => ascend layers top level next passed

/-- A request goes through the layers from a level on, and the innermost one asks the bottom. -/
def descend (layers : Nat → Layer State Request Answer) (top : State → Answer → State)
    (bottom : State → Request → State) : Nat → Nat → State → Request → State
  | 0, _, state, request => bottom state request
  | remaining + 1, level, state, request =>
      match (layers level).request state request with
      | (next, .error answer) =>
          (layers level).refused (ascend layers top level next answer) request
      | (next, .ok passed) => descend layers top bottom remaining (level + 1) next passed

variable {layers : Nat → Layer State Request Answer} {top : State → Answer → State}
  {bottom : State → Request → State} (rising : Nat → Answer → State → Prop)
  (sinking : Nat → Request → State → Prop) (settled : State → Prop)

/-- What each layer and the top keep of a rising answer holds when it has settled. -/
theorem ascend_rule
    (arrives : ∀ answer state, rising 0 answer state → settled (top state answer))
    (keeps : ∀ level answer state next, rising (level + 1) answer state →
      (layers level).answer state answer = (next, none) → settled next)
    (passes : ∀ level answer state next passed, rising (level + 1) answer state →
      (layers level).answer state answer = (next, some passed) → rising level passed next)
    {level : Nat} {answer : Answer} {state : State} (start : rising level answer state) :
    settled (ascend layers top level state answer) := by
  induction level generalizing state answer with
  | zero => exact arrives answer state start
  | succ level ih =>
      unfold ascend
      split
      · next next kept => exact keeps level answer state next start kept
      · next next passed back => exact ih (passes level answer state next passed start back)

/-- What each layer and the bottom keep of a sinking request holds when it has settled, if a rising
answer settles and no layer undoes that after it refused. -/
theorem descend_rule (count : Nat)
    (arrives : ∀ request state, sinking count request state → settled (bottom state request))
    (refuses : ∀ level request state next answer, level < count → sinking level request state →
      (layers level).request state request = (next, .error answer) → rising level answer next)
    (returns : ∀ level request state, settled state →
      settled ((layers level).refused state request))
    (ascends : ∀ level answer state, rising level answer state →
      settled (ascend layers top level state answer))
    (passes : ∀ level request state next passed, level < count → sinking level request state →
      (layers level).request state request = (next, .ok passed) → sinking (level + 1) passed next)
    {remaining level : Nat} {request : Request} {state : State} (left : level + remaining = count)
    (start : sinking level request state) :
    settled (descend layers top bottom remaining level state request) := by
  induction remaining generalizing level request state with
  | zero =>
      obtain rfl : level = count := by simpa using left
      exact arrives request state start
  | succ remaining ih =>
      have within : level < count := by omega
      unfold descend
      split
      · next next answer refused =>
          have rises := refuses level request state next answer within start refused
          exact returns level request _ (ascends level answer next rises)
      · next next passed onward =>
          exact ih (by omega) (passes level request state next passed within start onward)

end Layer
end Centro.Library
