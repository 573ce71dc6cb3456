import Centro.Construction.Text
import Centro.Library.OrderedMap
import Centro.Library.TransitionSystem

namespace Centro

open Library

variable (Handler Value World : Type*)

/-- A piece of code does something of its own, calls a function that `next` returned, registers a
handler, or emits an event. -/
inductive PipelineCode where
  | done
  | act (change : World → World) (rest : World → PipelineCode)
  | next (closure : Nat) (arguments : List Value) (rest : PipelineCode)
  | pipeline (object : Nat) (evname : JsString) (handler : Handler) (rest : PipelineCode)
  | emit (object : Nat) (evname : JsString) (arguments : List Value) (rest : PipelineCode)

/-- A handler has this code for its arguments and for the function that is its last argument. A
default handler may be a member of an object or not. -/
structure PipelineProgram where
  handlerCode : Handler → List Value → Nat → PipelineCode Handler Value World
  defaultCode : Handler → List Value → PipelineCode Handler Value World
  defaultHandler : World → Nat → JsString → Option Handler

/-- The function `next` returns a closure with these variables. -/
structure NextClosure where
  object : Nat
  evname : JsString
  index : Nat
  origArguments : List Value

/-- A handler is registered, an event is emitted, or a closure is called, where its object has this
default handler. A handler or a default handler is called. -/
inductive PipelineCall where
  | pipeline (object : Nat) (evname : JsString) (handler : Handler)
  | emit (object : Nat) (evname : JsString) (arguments : List Value)
  | next (closure : Nat) (arguments : List Value) (defaultHandler : Option Handler)
  | handler (object : Nat) (evname : JsString) (index : Nat) (handler : Handler)
      (arguments : List Value) (closure : Nat) (origArguments : List Value)
  | default (object : Nat) (evname : JsString) (handler : Handler) (arguments : List Value)

/-- The map `centro_pipeline_handlers` of each object has a list for each event with a listener. The
handlers got these closures. What the code in progress has left to do is on the stack. -/
structure Pipelines where
  handlers : OrderedMap (Nat × JsString) (List Handler) := .empty
  closures : List (NextClosure Value) := []
  stack : List (PipelineCode Handler Value World) := []
  world : World
  calls : List (PipelineCall Handler Value) := []

namespace Pipelines

variable {Handler Value World : Type*}

def call (state : Pipelines Handler Value World) (made : PipelineCall Handler Value) :
    Pipelines Handler Value World :=
  { state with calls := state.calls ++ [made] }

/-- The function `pipeline`. -/
def pipeline (state : Pipelines Handler Value World) (object : Nat) (evname : JsString)
    (handler : Handler) : Pipelines Handler Value World :=
  let handlers := (state.handlers.get (object, evname)).getD []
  { state with handlers := state.handlers.set (object, evname) (handlers ++ [handler]) }.call
    (.pipeline object evname handler)

/-- This is the body of the closure that `next` returns. It throws where it finds no handler. -/
def apply (program : PipelineProgram Handler Value World) (state : Pipelines Handler Value World)
    (closure : NextClosure Value) (arguments : List Value) :
    Option (Pipelines Handler Value World) :=
  let handlers := (state.handlers.get (closure.object, closure.evname)).getD []
  if closure.index = handlers.length then
    match program.defaultHandler state.world closure.object closure.evname with
    | none => some state
    | some h => some ({ state with stack := program.defaultCode h arguments :: state.stack }.call
        (.default closure.object closure.evname h arguments))
  else handlers[closure.index]?.map fun h =>
    let next := state.closures.length
    let closures := state.closures ++ [{ closure with index := closure.index + 1 }]
    let stack := program.handlerCode h arguments next :: state.stack
    { state with closures, stack }.call (.handler closure.object closure.evname closure.index h
      arguments next closure.origArguments)

/-- The listener for the event calls the first closure with the arguments of the emission. -/
def emit (program : PipelineProgram Handler Value World) (state : Pipelines Handler Value World)
    (object : Nat) (evname : JsString) (arguments : List Value) :
    Option (Pipelines Handler Value World) :=
  let state := state.call (.emit object evname arguments)
  if state.handlers.has (object, evname) then
    state.apply program { object, evname, index := 0, origArguments := arguments } arguments
  else some state

/-- The innermost code in progress goes on, or other code starts when none is in progress. -/
inductive Event (Handler Value World : Type*) where
  | run
  | start (code : PipelineCode Handler Value World)

def step (program : PipelineProgram Handler Value World) (state : Pipelines Handler Value World) :
    Event Handler Value World → Option (Pipelines Handler Value World)
  | .run =>
      match state.stack with
      | [] => none
      | .done :: stack => some { state with stack }
      | .act change rest :: stack => some { state with
          world := change state.world
          stack := rest state.world :: stack }
      | .next number arguments rest :: stack =>
          state.closures[number]?.bind fun closure =>
            let dflt := program.defaultHandler state.world closure.object closure.evname
            ({ state with stack := rest :: stack }.call (.next number arguments dflt)).apply
              program closure arguments
      | .pipeline object evname handler rest :: stack =>
          some ({ state with stack := rest :: stack }.pipeline object evname handler)
      | .emit object evname arguments rest :: stack =>
          { state with stack := rest :: stack }.emit program object evname arguments
  | .start code => if state.stack.isEmpty then some { state with stack := [code] } else none

def system (program : PipelineProgram Handler Value World) (world : World) :
    TransitionSystem (Pipelines Handler Value World) (Event Handler Value World) where
  initial := { world }
  step := step program

end Pipelines
end Centro
