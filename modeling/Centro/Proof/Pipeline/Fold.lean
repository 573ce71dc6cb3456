import Centro.Proof.Pipeline.Lawful
import Mathlib.Logic.Relation

namespace Centro

open Library

variable {Handler Value World : Type*}

/-- Code that does something of its own takes the world to this one, and then it has this left. -/
inductive PipelineCode.Acts : PipelineCode Handler Value World → World →
    PipelineCode Handler Value World → World → Prop
  | refl {code world} : Acts code world code world
  | act {change rest world last later} : Acts (rest world) (change world) last later →
      Acts (.act change rest) world last later

/-- A handler that calls `next` once changes the world before that, passes these arguments on, and
changes the world after it, where it knows how the world was at first. -/
structure OnceHandler (Value World : Type*) where
  before : List Value → World → World
  pass : List Value → World → List Value
  after : List Value → World → World → World

namespace OnceHandler

/-- The handler does this with what the rest of the pipeline does. -/
def effect (handler : OnceHandler Value World) (rest : List Value → World → World)
    (arguments : List Value) (world : World) : World :=
  handler.after arguments world
    (rest (handler.pass arguments world) (handler.before arguments world))

/-- The code of a handler calls `next` once. -/
def Describes (handler : OnceHandler Value World)
    (code : List Value → Nat → PipelineCode Handler Value World) : Prop :=
  ∀ arguments closure world, ∃ rest,
    (code arguments closure).Acts world (.next closure (handler.pass arguments world) rest)
      (handler.before arguments world) ∧
    ∀ later, rest.Acts later .done (handler.after arguments world later)

end OnceHandler

namespace Pipelines

variable {program : PipelineProgram Handler Value World}
  {state before after : Pipelines Handler Value World} {closure : NextClosure Value}
  {arguments : List Value} {object : Nat} {evname : JsString}

/-- The code in progress takes the state to this one. -/
def Runs (program : PipelineProgram Handler Value World) :
    Pipelines Handler Value World → Pipelines Handler Value World → Prop :=
  Relation.ReflTransGen fun before after => before.step program .run = some after

theorem runs_acts {code last : PipelineCode Handler Value World} {world later : World}
    (acts : code.Acts world last later) (state : Pipelines Handler Value World)
    (stack : List (PipelineCode Handler Value World)) :
    Runs program { state with stack := code :: stack, world }
      { state with stack := last :: stack, world := later } := by
  induction acts with
  | refl => exact .refl
  | act _ ih => exact .head rfl ih

/-- Code that only does something of its own leaves the stack below it. -/
theorem runs_done {code : PipelineCode Handler Value World} {world later : World}
    (acts : code.Acts world .done later) (state : Pipelines Handler Value World)
    (stack : List (PipelineCode Handler Value World)) :
    Runs program { state with stack := code :: stack, world }
      { state with stack, world := later } :=
  (runs_acts acts state stack).tail rfl

/-- The default handler of this event of this object has this effect, if there is one. -/
def defaultEffect (program : PipelineProgram Handler Value World)
    (effect : Handler → List Value → World → World) (object : Nat) (evname : JsString)
    (arguments : List Value) (world : World) : World :=
  match program.defaultHandler world object evname with
  | none => world
  | some h => effect h arguments world

/-- The handlers from an index on do what their fold does. -/
theorem apply_fold {once : Handler → OnceHandler Value World}
    {effect : Handler → List Value → World → World} {handlers : List Handler}
    (describes : ∀ h ∈ handlers, (once h).Describes (program.handlerCode h))
    (ends : ∀ h arguments world,
      (program.defaultCode h arguments).Acts world .done (effect h arguments world))
    {rest : List Handler} (closure : NextClosure Value)
    (left : handlers.drop closure.index = rest) (inside : closure.index ≤ handlers.length)
    (arguments : List Value) (state : Pipelines Handler Value World)
    (stored : state.handlers.get (closure.object, closure.evname) = some handlers) :
    ∃ middle after, state.apply program closure arguments = some middle ∧
      Runs program middle after ∧ after.stack = state.stack ∧ after.handlers = state.handlers ∧
      after.world = rest.foldr (fun h => (once h).effect)
        (defaultEffect program effect closure.object closure.evname) arguments state.world := by
  induction rest generalizing closure arguments state with
  | nil =>
      have last : closure.index =
          ((state.handlers.get (closure.object, closure.evname)).getD []).length := by
        rw [stored]
        exact Nat.le_antisymm inside (List.drop_eq_nil_iff.mp left)
      rw [apply_default last]
      cases present : program.defaultHandler state.world closure.object closure.evname with
      | none =>
          refine ⟨state, state, rfl, .refl, rfl, rfl, ?_⟩
          simp [defaultEffect, present]
      | some h =>
          let ended := state.call (.default closure.object closure.evname h arguments)
          refine ⟨_, { ended with world := effect h arguments state.world }, rfl,
            runs_done (ends h arguments state.world) ended state.stack, rfl, rfl, ?_⟩
          simp [defaultEffect, present]
  | cons h rest ih =>
      have found : handlers[closure.index]? = some h := by
        have first := congrArg (·[0]?) left
        simpa using first
      have tail : handlers.drop (closure.index + 1) = rest := by
        rw [← List.drop_drop, left]
        rfl
      have within : closure.index + 1 ≤ handlers.length := (List.getElem?_eq_some_iff.mp found).1
      obtain ⟨code, acts, finishes⟩ := describes h (List.mem_of_getElem? found) arguments
        state.closures.length state.world
      have called := @apply_handler _ _ _ program state closure arguments h <| by
        rw [stored]
        exact found
      -- The handler runs up to its call of `next`, and the rest of the pipeline runs inside it.
      let next := state.closures.length
      let passed := (once h).pass arguments state.world
      let given := state.call (.handler closure.object closure.evname closure.index h arguments next
        closure.origArguments)
      let closures := state.closures ++ [{ closure with index := closure.index + 1 }]
      let waiting : Pipelines Handler Value World := { given with
        closures
        stack := .next next passed code :: state.stack
        world := (once h).before arguments state.world }
      let passing := ({ waiting with stack := code :: state.stack }).call (.next next passed
        (program.defaultHandler waiting.world closure.object closure.evname))
      obtain ⟨middle, later, applied, runs, stack, kept, world⟩ :=
        ih { closure with index := closure.index + 1 } tail within passed passing stored
      have stepped : waiting.step program .run = some middle := by
        have following : closures[next]? = some { closure with index := closure.index + 1 } := by
          simp [closures, next]
        change (closures[next]?).bind _ = _
        rw [following]
        exact applied
      have same : { later with stack := code :: state.stack } = later := by
        have stack : later.stack = code :: state.stack := stack
        rw [← stack]
      have finished := @runs_done _ _ _ program _ _ _ (finishes later.world) later state.stack
      rw [same] at finished
      refine ⟨_, { later with
        stack := state.stack
        world := (once h).after arguments state.world later.world }, called, ?_, rfl, kept, ?_⟩
      · have entered := @runs_acts _ _ _ program _ _ _ _ acts { given with closures } state.stack
        exact entered.trans (.head stepped (runs.trans finished))
      · rw [List.foldr_cons]
        exact congrArg ((once h).after arguments state.world) world

/-- An emission does what the fold of the handlers over the default handler does. -/
theorem emit_fold {once : Handler → OnceHandler Value World}
    {effect : Handler → List Value → World → World} {handlers : List Handler}
    {rest : PipelineCode Handler Value World} {stack : List (PipelineCode Handler Value World)}
    (describes : ∀ h ∈ handlers, (once h).Describes (program.handlerCode h))
    (ends : ∀ h arguments world,
      (program.defaultCode h arguments).Acts world .done (effect h arguments world))
    (emits : state.stack = .emit object evname arguments rest :: stack)
    (stored : state.handlers.get (object, evname) = some handlers) :
    ∃ after, Runs program state after ∧ after.stack = rest :: stack ∧
      after.handlers = state.handlers ∧
      after.world = handlers.foldr (fun h => (once h).effect)
        (defaultEffect program effect object evname) arguments state.world := by
  obtain ⟨middle, after, applied, runs, left, kept, world⟩ := apply_fold describes ends
    { object, evname, index := 0, origArguments := arguments } rfl (Nat.zero_le _) arguments
    ({ state with stack := rest :: stack }.call (.emit object evname arguments)) stored
  refine ⟨after, .head ?_ runs, left, kept, world⟩
  have heard : state.handlers.has (object, evname) = true := by
    rw [OrderedMap.has, stored]
    rfl
  simp only [step, emits, emit]
  exact (if_pos heard).trans applied

/-- The calls of all pipelines are lawful, each list of handlers is its own, no code in progress
throws, and an emission for handlers that call `next` once is a fold. -/
structure Piped (program : PipelineProgram Handler Value World)
    (state : Pipelines Handler Value World) : Prop where
  lawful : Lawful state.calls
  own : ∀ object evname, (state.handlers.get (object, evname)).getD [] =
    registered state.calls object evname
  runs : ∀ code stack, state.stack = code :: stack →
    (∀ number arguments rest, code = .next number arguments rest → number < state.closures.length) →
    ∃ after, state.step program .run = some after
  folds : ∀ (once : Handler → OnceHandler Value World)
    (effect : Handler → List Value → World → World)
    object evname arguments rest stack,
    state.stack = .emit object evname arguments rest :: stack →
    registered state.calls object evname ≠ [] →
    (∀ h ∈ registered state.calls object evname, (once h).Describes (program.handlerCode h)) →
    (∀ h arguments world,
      (program.defaultCode h arguments).Acts world .done (effect h arguments world)) →
    ∃ after, Runs program state after ∧ after.stack = rest :: stack ∧
      after.handlers = state.handlers ∧
      after.world = (registered state.calls object evname).foldr (fun h => (once h).effect)
        (defaultEffect program effect object evname) arguments state.world

/-- Every interleaving of code that registers handlers, emits events and calls closures keeps to the
meaning of the pipelines. -/
theorem pipeline_semantics {world : World}
    (reached : (system program world).Reachable state) : state.Piped program := by
  have start : (system program world).initial.Tracked := tracked_initial world
  have tracked : state.Tracked :=
    reached.invariant start fun _ _ _ tracked _ stepped => tracked_step tracked stepped
  constructor
  · exact tracked.lawful
  · exact tracked.own
  · intro code stack shape known
    cases code with
    | done | act | pipeline =>
        simp only [step, shape]
        exact ⟨_, rfl⟩
    | next number arguments rest =>
        have found := List.getElem?_eq_getElem (known number arguments rest rfl)
        have ready := tracked.goOn (rest :: stack) state.world
        obtain ⟨after, applied, -⟩ := @tracked_next _ _ _ program _ _ _ ready found arguments
        refine ⟨after, ?_⟩
        simp only [step, shape, found, Option.bind_some]
        exact applied
    | emit object evname arguments rest =>
        have ready := tracked.goOn (rest :: stack) state.world
        obtain ⟨after, emitted, -⟩ := @tracked_emit _ _ _ program _ ready object evname arguments
        refine ⟨after, ?_⟩
        simp only [step, shape]
        exact emitted
  · intro once effect object evname arguments rest stack emits present describes ends
    have heard := (tracked.has object evname).mpr present
    obtain ⟨handlers, stored⟩ := Option.isSome_iff_exists.mp heard
    have same := tracked.own object evname
    rw [stored] at same
    exact emit_fold (same ▸ describes) ends emits (by rw [stored]; exact congrArg some same)

/-- Each handler calls `next` twice. -/
def sampleProgram : PipelineProgram Nat Nat (List Nat) where
  handlerCode h arguments closure :=
    .next closure (arguments ++ [h]) (.next closure [h] .done)
  defaultCode _ arguments := .act (· ++ arguments) fun _ => .done
  defaultHandler _ _ _ := some 0

def sampleEvents : List (Event Nat Nat (List Nat)) :=
  .start (.pipeline 0 [] 1 (.pipeline 0 [] 2 (.emit 0 [] [7] .done))) :: List.replicate 21 .run

theorem pipeline_semantics_sample : ∃ state,
    (system sampleProgram []).run { world := [] } sampleEvents = some state ∧
    state.world = [7, 1, 2, 2, 1, 2, 2] ∧ state.stack.length = 0 ∧ state.Piped sampleProgram := by
  obtain ⟨state, ran, world, stack⟩ : ∃ state,
      (system sampleProgram []).run { world := [] } sampleEvents = some state ∧
      state.world = [7, 1, 2, 2, 1, 2, 2] ∧ state.stack.length = 0 := ⟨_, rfl, rfl, rfl⟩
  exact ⟨state, ran, world, stack, pipeline_semantics (TransitionSystem.reachable_of_run ran)⟩

end Pipelines
end Centro
