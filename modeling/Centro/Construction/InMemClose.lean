import Centro.Construction.InMem

namespace Centro

open Library

/-- These calls wait in the queue of `process.nextTick`. A stream emits its events after `destroy`,
an error goes on to the listeners of the peer, or the next listener for `close` is called. -/
inductive CloseTick (Error : Type*) where
  | emitClose (side : Side)
  | emitErrorClose (side : Side) (err : Error)
  | origEmit (side : Side) (err : Error)
  | listener (number : Nat)

/-- The methods `emit` and `_orig_emit` call the listeners of a stream, and a callback that
`onclose` got is called. -/
inductive CloseCall (Error : Type*) where
  | error (side : Side) (err : Error)
  | origEmit (side : Side) (err : Error)
  | close (side : Side)
  | cb (number : Nat)

/-- The two streams of a connection, with the timers of `destroy`, the callbacks that `onclose` got,
and the listeners for `close` that these have become. -/
structure InMemClose (Error : Type*) where
  destroyed : Side → Bool := fun _ => false
  ticks : List (CloseTick Error) := []
  timers : List (Option Error) := []
  callbacks : Nat := 0
  listeners : List Nat := []
  calls : List (CloseCall Error) := []

namespace InMemClose

variable {Error : Type*}

/-- The method `destroy` of a stream does nothing the second time. -/
def origDestroy (pair : InMemClose Error) (side : Side) (err : Option Error) : InMemClose Error :=
  if pair.destroyed side then pair
  else
    let tick := match err with
      | none => .emitClose side
      | some err => .emitErrorClose side err
    { pair with
      destroyed := Function.update pair.destroyed side true
      ticks := pair.ticks ++ [tick] }

/-- The inner function `destroy` of `RightDuplex`. -/
def destroyNow (pair : InMemClose Error) (err : Option Error) : InMemClose Error :=
  (pair.origDestroy .left none).origDestroy .right err

/-- The method `destroy` of `RightDuplex`. -/
def rightDestroy (destroyWait : Option Nat) (pair : InMemClose Error) (err : Option Error)
    (now : Bool) : InMemClose Error :=
  if destroyWait = none ∨ now then pair.destroyNow err
  else { pair with timers := pair.timers ++ [err] }

/-- The methods `emit` of both classes hand an error on to the peer. -/
def emitError (pair : InMemClose Error) (side : Side) (err : Error) : InMemClose Error :=
  { pair with
    ticks := pair.ticks ++ [.origEmit side.peer err], calls := pair.calls ++ [.error side err] }

/-- The method `emit` of `LeftDuplex` destroys the peer before the listeners for `close`. -/
def emitClose (destroyWait : Option Nat) (pair : InMemClose Error) : Side → InMemClose Error
  | .left =>
      let pair := pair.rightDestroy destroyWait none true
      { pair with calls := pair.calls ++ [.close .left] }
  | .right =>
      { pair with
        ticks := pair.listeners.map .listener ++ pair.ticks
        listeners := []
        calls := pair.calls ++ [.close .right] }

def callback (pair : InMemClose Error) (number : Nat) : InMemClose Error :=
  { pair with calls := pair.calls ++ [.cb number] }

/-- The function `onclose` of the transport. -/
def onclose (pair : InMemClose Error) : InMemClose Error :=
  let number := pair.callbacks
  let pair := { pair with callbacks := number + 1 }
  if pair.destroyed .right then pair.callback number
  else { pair with listeners := pair.listeners ++ [number] }

/-- Someone destroys a stream or emits an error on it, or gives `onclose` a callback. The function
`destroy` of the transport is called, the right stream is at its end, or authorization fails. A
timer or the next call of the queue is due. -/
inductive Event (Error : Type*) where
  | leftDestroy (err : Option Error)
  | rightDestroy (err : Option Error) (now : Bool)
  | error (side : Side) (err : Error)
  | onclose
  | destroy (now : Bool)
  | ended
  | refused
  | timer (index : Nat)
  | tick

/-- More events may follow from inside the listeners, which come last in each step. -/
def step (destroyWait : Option Nat) (pair : InMemClose Error) :
    Event Error → Option (InMemClose Error)
  | .leftDestroy err => some (pair.origDestroy .left err)
  | .rightDestroy err now => some (pair.rightDestroy destroyWait err now)
  | .error side err => some (pair.emitError side err)
  | .onclose => some pair.onclose
  | .destroy now => some (pair.rightDestroy destroyWait none now)
  | .ended | .refused => some (pair.rightDestroy destroyWait none false)
  | .timer index => pair.timers[index]?.map fun err =>
      { pair with timers := pair.timers.eraseIdx index }.destroyNow err
  | .tick =>
      match pair.ticks with
      | [] => none
      | tick :: ticks =>
          let pair := { pair with ticks }
          match tick with
          | .emitClose side => some (pair.emitClose destroyWait side)
          | .emitErrorClose side err =>
              some ({ pair with ticks := .emitClose side :: ticks }.emitError side err)
          | .origEmit side err => some { pair with calls := pair.calls ++ [.origEmit side err] }
          | .listener number => some (pair.callback number)

def system (destroyWait : Option Nat) : TransitionSystem (InMemClose Error) (Event Error) where
  initial := {}
  step := step destroyWait

end InMemClose
end Centro
