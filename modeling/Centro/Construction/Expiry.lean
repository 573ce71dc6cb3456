import Centro.Construction.Connection
import Centro.Library.TransitionSystem

namespace Centro

open Library

/-- The function `schedule` reads the clock, a timer is set or cleared, the token expires, or the
connection closes. -/
inductive ExpiryCall where
  | checked (now : Int)
  | setTimeout (number : Nat) (delay : Int)
  | clearTimeout (number : Nat)
  | expired
  | closed
  deriving DecidableEq

/-- A timer that was set at this time has neither fired nor been cleared. -/
structure PendingTimer where
  number : Nat
  timer : Timer
  since : Int
  delay : Int

/-- These are the timers of one token. The member `timeout` of its object `conn` refers to a timer
by its number, and `start` is the time when the token was handled. -/
structure Expiry where
  clock : Int
  start : Option Int := none
  pending : List PendingTimer := []
  timeout : Option Nat := none
  timers : Nat := 0
  closed : Bool := false
  calls : List ExpiryCall := []

namespace Expiry

/-- The function `schedule` for the time of expiry. -/
def schedule (exp : Int) (expiry : Expiry) : Expiry :=
  let (timer, delay) := Centro.schedule (exp * 1000) expiry.clock
  let pending := { number := expiry.timers, timer, since := expiry.clock, delay }
  { expiry with
    pending := pending :: expiry.pending
    timeout := some expiry.timers
    timers := expiry.timers + 1
    calls := expiry.calls ++ [.checked expiry.clock, .setTimeout expiry.timers delay] }

/-- The function `process_handshake` schedules the expiry of the token. -/
def handshake (exp : Int) (expiry : Expiry) : Expiry :=
  if expiry.closed then expiry
  else schedule exp { expiry with start := some expiry.clock }

/-- A timer that fires is no longer pending. The action clears `timeout`. -/
def fire (exp : Int) (expiry : Expiry) (fired : PendingTimer) : Expiry :=
  let expiry := { expiry with
    pending := expiry.pending.filter fun timer => timer.number ≠ fired.number }
  match fired.timer with
  | .schedule => expiry.schedule exp
  | .action => { expiry with timeout := none, calls := expiry.calls ++ [.expired] }

/-- The function `conn_closed` clears the stored timer. -/
def connClosed (expiry : Expiry) : Expiry :=
  match expiry.timeout with
  | none => { expiry with closed := true, calls := expiry.calls ++ [.closed] }
  | some number => { expiry with
      closed := true
      pending := expiry.pending.filter fun timer => timer.number ≠ number
      calls := expiry.calls ++ [.clearTimeout number, .closed] }

/-- The clock moves on, the token is handled, a pending timer fires, or the connection closes. -/
inductive Event where
  | tick (now : Int)
  | handshake
  | fire (number : Nat)
  | close

/-- A timer may fire before or after its delay. -/
def step (exp : Int) (expiry : Expiry) : Event → Option Expiry
  | .tick now => if expiry.clock ≤ now then some { expiry with clock := now } else none
  | .handshake => if expiry.start = none then some (expiry.handshake exp) else none
  | .fire number => (expiry.pending.find? (·.number = number)).map (expiry.fire exp)
  | .close => if expiry.closed then none else some expiry.connClosed

def system (exp clock : Int) : TransitionSystem Expiry Event where
  initial := { clock }
  step := step exp

end Expiry
end Centro
