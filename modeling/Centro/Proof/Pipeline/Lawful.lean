import Centro.Construction.Pipeline
import Centro.Library.Trace

namespace Centro

open Library

variable {Handler Value World : Type*}

namespace PipelineCall

/-- The handler that is called gets the closure. -/
def Gives (closure : Nat) : PipelineCall Handler Value → Prop
  | handler _ _ _ _ _ given _ => given = closure
  | _ => False

/-- A handler is registered for this event of this object. -/
def registers (object : Nat) (evname : JsString) : PipelineCall Handler Value → Option Handler
  | pipeline other name added => if (other, name) = (object, evname) then some added else none
  | _ => none

end PipelineCall

namespace Pipelines

/-- These handlers were registered for this event of this object, in order. -/
def registered (calls : List (PipelineCall Handler Value)) (object : Nat) (evname : JsString) :
    List Handler :=
  calls.filterMap (PipelineCall.registers object evname)

/-- An emission calls the first handler. A call of the closure that a handler got calls the next
handler with the same arguments, or it calls the default handler if that was the last handler. No
other handler is called. A closure is given to one call of a handler, and it carries the arguments
of the emission. -/
inductive Lawful : List (PipelineCall Handler Value) → Prop
  | nil : Lawful []
  | pipeline {calls object evname handler} : Lawful calls →
      Lawful (calls ++ [.pipeline object evname handler])
  | unheard {calls object evname arguments} : Lawful calls → registered calls object evname = [] →
      Lawful (calls ++ [.emit object evname arguments])
  | emitted {calls object evname arguments handler closure} : Lawful calls →
      (registered calls object evname)[0]? = some handler →
      (∀ call ∈ calls, ¬call.Gives closure) →
      Lawful (calls ++ [.emit object evname arguments,
        .handler object evname 0 handler arguments closure arguments])
  | passed {calls object evname index handler arguments closure origArguments} {next passed given
      dflt} : Lawful calls →
      .handler object evname index handler arguments closure origArguments ∈ calls →
      (registered calls object evname)[index + 1]? = some next →
      (∀ call ∈ calls, ¬call.Gives given) →
      Lawful (calls ++ [.next closure passed dflt,
        .handler object evname (index + 1) next passed given origArguments])
  | ended {calls object evname index handler arguments closure origArguments} {passed dflt} :
      Lawful calls →
      .handler object evname index handler arguments closure origArguments ∈ calls →
      (registered calls object evname).length = index + 1 →
      Lawful (calls ++ [.next closure passed (some dflt), .default object evname dflt passed])
  | silent {calls object evname index handler arguments closure origArguments} {passed} :
      Lawful calls →
      .handler object evname index handler arguments closure origArguments ∈ calls →
      (registered calls object evname).length = index + 1 →
      Lawful (calls ++ [.next closure passed none])

variable {program : PipelineProgram Handler Value World}
  {state before after : Pipelines Handler Value World} {closure : NextClosure Value}
  {arguments : List Value} {object : Nat} {evname : JsString}

/-- The lists of handlers are those that were registered, and each closure belongs to a call of a
handler. -/
structure Tracked (state : Pipelines Handler Value World) : Prop where
  lawful : Lawful state.calls
  has : ∀ object evname, state.handlers.has (object, evname) = true ↔
    registered state.calls object evname ≠ []
  own : ∀ object evname, (state.handlers.get (object, evname)).getD [] =
    registered state.calls object evname
  given : ∀ number closure, state.closures[number]? = some closure →
    ∃ index handler arguments, closure.index = index + 1 ∧
      index < (registered state.calls closure.object closure.evname).length ∧
      .handler closure.object closure.evname index handler arguments number
        closure.origArguments ∈ state.calls
  fresh : ∀ call ∈ state.calls, ∀ number, call.Gives number → number < state.closures.length

theorem registered_append (calls extra : List (PipelineCall Handler Value)) (object : Nat)
    (evname : JsString) : registered (calls ++ extra) object evname =
      registered calls object evname ++ registered extra object evname :=
  List.filterMap_append

/-- Calls that register nothing keep the lists. -/
theorem registered_quiet {calls extra : List (PipelineCall Handler Value)}
    (quiet : ∀ call ∈ extra, ∀ object evname, call.registers object evname = none) (object : Nat)
    (evname : JsString) :
    registered (calls ++ extra) object evname = registered calls object evname := by
  have none : registered extra object evname = [] :=
    List.filterMap_eq_nil_iff.mpr fun call member => quiet call member object evname
  rw [registered_append, none, List.append_nil]

/-- Code may go on and closures may be called without a new closure. -/
theorem Tracked.quiet {extra : List (PipelineCall Handler Value)} (tracked : before.Tracked)
    (lawful : Lawful (before.calls ++ extra))
    (quiet : ∀ call ∈ extra, ∀ object evname, call.registers object evname = none)
    (ungiven : ∀ call ∈ extra, ∀ number, ¬call.Gives number)
    (handlers : after.handlers = before.handlers) (closures : after.closures = before.closures)
    (calls : after.calls = before.calls ++ extra) : after.Tracked := by
  have same := @registered_quiet _ _ before.calls extra quiet
  constructor
  · rw [calls]
    exact lawful
  · intro object evname
    rw [handlers, calls, same]
    exact tracked.has object evname
  · intro object evname
    rw [handlers, calls, same]
    exact tracked.own object evname
  · intro number closure found
    rw [closures] at found
    obtain ⟨index, handler, arguments, shape, within, member⟩ := tracked.given number closure found
    refine ⟨index, handler, arguments, shape, ?_, ?_⟩
    · rw [calls, same]
      exact within
    · rw [calls]
      exact List.mem_append_left _ member
  · intro call member number gives
    rw [closures]
    rw [calls] at member
    rcases List.mem_append.mp member with old | new
    · exact tracked.fresh call old number gives
    · exact absurd gives (ungiven call new number)

/-- A registration changes one list. -/
theorem get_pipeline (state : Pipelines Handler Value World) (object : Nat) (evname : JsString)
    (handler : Handler) (key : Nat × JsString) :
    (state.pipeline object evname handler).handlers.get key =
      if key = (object, evname) then
        some ((state.handlers.get (object, evname)).getD [] ++ [handler])
      else state.handlers.get key :=
  OrderedMap.get_set

theorem registered_pipeline (calls : List (PipelineCall Handler Value)) (object other : Nat)
    (evname name : JsString) (handler : Handler) :
    registered (calls ++ [.pipeline object evname handler]) other name =
      if (other, name) = (object, evname) then registered calls object evname ++ [handler]
      else registered calls other name := by
  rw [registered_append]
  split
  · next same =>
      obtain ⟨rfl, rfl⟩ := Prod.mk.inj same
      simp [registered, PipelineCall.registers]
  · next different => simp [registered, PipelineCall.registers, Ne.symm different]

theorem tracked_pipeline (tracked : before.Tracked) (object : Nat) (evname : JsString)
    (handler : Handler) : (before.pipeline object evname handler).Tracked where
  lawful := tracked.lawful.pipeline
  has other name := by
    change (OrderedMap.get _ _).isSome = true ↔ registered (before.calls ++ [_]) other name ≠ []
    rw [get_pipeline, registered_pipeline]
    split
    · simp
    · exact tracked.has other name
  own other name := by
    change _ = registered (before.calls ++ [_]) other name
    rw [get_pipeline, registered_pipeline]
    split
    · exact congrArg (· ++ [handler]) (tracked.own object evname)
    · exact tracked.own other name
  given number closure found := by
    obtain ⟨index, h, arguments, shape, within, member⟩ := tracked.given number closure found
    refine ⟨index, h, arguments, shape, ?_, List.mem_append_left _ member⟩
    change index < (registered (before.calls ++ [_]) _ _).length
    rw [registered_append, List.length_append]
    exact Nat.lt_add_right _ within
  fresh call member number gives := by
    rcases mem_concat.mp member with old | rfl
    · exact tracked.fresh call old number gives
    · exact gives.elim

/-- The handler that is called gets a new closure. -/
theorem tracked_given {prompt : PipelineCall Handler Value} {h : Handler}
    (tracked : before.Tracked)
    (lawful : Lawful (before.calls ++ [prompt, .handler closure.object closure.evname closure.index
      h arguments before.closures.length closure.origArguments]))
    (quiet : ∀ object evname, prompt.registers object evname = none)
    (ungiven : ∀ number, ¬prompt.Gives number)
    (within : closure.index < (registered before.calls closure.object closure.evname).length)
    (handlers : after.handlers = before.handlers)
    (closures : after.closures =
      before.closures ++ [{ closure with index := closure.index + 1 }])
    (calls : after.calls = before.calls ++ [prompt, .handler closure.object closure.evname
      closure.index h arguments before.closures.length closure.origArguments]) :
    after.Tracked := by
  have same : ∀ object evname, registered after.calls object evname =
      registered before.calls object evname := by
    intro object evname
    rw [calls]
    refine registered_quiet (fun call member object evname => ?_) object evname
    simp only [List.mem_cons, List.not_mem_nil, or_false] at member
    obtain rfl | rfl := member
    · exact quiet object evname
    · rfl
  constructor
  · exact calls ▸ lawful
  · intro object evname
    rw [handlers, same]
    exact tracked.has object evname
  · intro object evname
    rw [handlers, same]
    exact tracked.own object evname
  · intro number other found
    rw [closures, List.getElem?_append] at found
    split at found
    · obtain ⟨index, handler, passed, shape, inside, member⟩ := tracked.given number other found
      refine ⟨index, handler, passed, shape, (same _ _).symm ▸ inside, ?_⟩
      exact calls ▸ List.mem_append_left _ member
    · next beyond =>
        have last : number = before.closures.length := by
          have short := (List.getElem?_eq_some_iff.mp found).1
          simp only [List.length_singleton] at short
          omega
        obtain rfl := List.mem_singleton.mp (List.mem_of_getElem? found)
        refine ⟨closure.index, h, arguments, rfl, (same _ _).symm ▸ within, ?_⟩
        rw [calls, last]
        simp
  · intro call member number gives
    rw [closures, List.length_append, List.length_singleton]
    rw [calls] at member
    rcases List.mem_append.mp member with old | new
    · exact Nat.lt_succ_of_lt (tracked.fresh call old number gives)
    · simp only [List.mem_cons, List.not_mem_nil, or_false] at new
      obtain rfl | rfl := new
      · exact absurd gives (ungiven number)
      · exact gives ▸ Nat.lt_succ_self _

/-- What a call of a closure does after it is noted. -/
theorem apply_handler {h : Handler}
    (found : ((state.handlers.get (closure.object, closure.evname)).getD [])[closure.index]? =
      some h) : state.apply program closure arguments = some
        ({ state with
          closures := state.closures ++ [{ closure with index := closure.index + 1 }]
          stack := program.handlerCode h arguments state.closures.length :: state.stack }.call
            (.handler closure.object closure.evname closure.index h arguments state.closures.length
              closure.origArguments)) := by
  obtain ⟨within, same⟩ := List.getElem?_eq_some_iff.mp found
  unfold apply
  dsimp only
  rw [if_neg (Nat.ne_of_lt within), found]
  rfl

theorem apply_default
    (last : closure.index =
      ((state.handlers.get (closure.object, closure.evname)).getD []).length) :
    state.apply program closure arguments = some
      (match program.defaultHandler state.world closure.object closure.evname with
      | none => state
      | some h => { state with stack := program.defaultCode h arguments :: state.stack }.call
          (.default closure.object closure.evname h arguments)) := by
  unfold apply
  dsimp only
  rw [if_pos last]
  cases program.defaultHandler state.world closure.object closure.evname <;> rfl

/-- The number of the next closure is new. -/
theorem Tracked.unused (tracked : state.Tracked) :
    ∀ call ∈ state.calls, ¬call.Gives state.closures.length :=
  fun call member gives => Nat.lt_irrefl _ (tracked.fresh call member _ gives)

/-- A closure that was given to a handler calls the next one or the default handler. -/
theorem tracked_next {number : Nat} (tracked : before.Tracked)
    (found : before.closures[number]? = some closure) (arguments : List Value) :
    ∃ after, (before.call (.next number arguments (program.defaultHandler before.world
      closure.object closure.evname))).apply program closure arguments = some after ∧
        after.Tracked := by
  obtain ⟨index, handler, passed, shape, within, member⟩ := tracked.given number closure found
  have own := tracked.own closure.object closure.evname
  by_cases last : closure.index =
      ((before.handlers.get (closure.object, closure.evname)).getD []).length
  · refine ⟨_, apply_default last, ?_⟩
    rw [own, shape] at last
    cases present : program.defaultHandler before.world closure.object closure.evname with
    | none =>
        dsimp only [call]
        rw [present]
        exact tracked.quiet (tracked.lawful.silent member last.symm)
          (by simp [PipelineCall.registers]) (by simp [PipelineCall.Gives]) rfl rfl rfl
    | some h =>
        dsimp only [call]
        rw [present]
        have lawful : Lawful (before.calls ++ [.next number arguments (some h),
            .default closure.object closure.evname h arguments]) :=
          tracked.lawful.ended member last.symm
        exact tracked.quiet lawful (by simp [PipelineCall.registers])
          (by simp [PipelineCall.Gives]) rfl rfl (by simp)
  · rw [own, shape] at last
    have inside : closure.index <
        (registered before.calls closure.object closure.evname).length := by
      rw [shape]
      omega
    obtain ⟨h, following⟩ : ∃ h, (registered before.calls closure.object
        closure.evname)[closure.index]? = some h := ⟨_, List.getElem?_eq_getElem inside⟩
    refine ⟨_, apply_handler ((congrArg (·[closure.index]?) own).trans following), ?_⟩
    refine @tracked_given _ _ _ _ _ closure arguments (.next number arguments _) h tracked ?_
      (fun _ _ => rfl) (fun _ => id) inside rfl rfl (List.append_assoc _ [_] [_])
    rw [shape] at following ⊢
    exact tracked.lawful.passed member following tracked.unused

/-- An emission calls the first handler if one is registered. -/
theorem tracked_emit (tracked : before.Tracked) (object : Nat) (evname : JsString)
    (arguments : List Value) :
    ∃ after, before.emit program object evname arguments = some after ∧ after.Tracked := by
  unfold emit
  dsimp only
  split
  · next heard =>
      have present := (tracked.has object evname).mp heard
      have inside : 0 < (registered before.calls object evname).length :=
        List.length_pos_of_ne_nil present
      obtain ⟨h, first⟩ : ∃ h, (registered before.calls object evname)[0]? = some h :=
        ⟨_, List.getElem?_eq_getElem inside⟩
      have own := tracked.own object evname
      refine ⟨_, apply_handler ((congrArg (·[0]?) own).trans first), ?_⟩
      exact tracked_given tracked (tracked.lawful.emitted first tracked.unused) (fun _ _ => rfl)
        (fun _ => id) inside rfl rfl (by simp [call])
  · next unheard =>
      have none : registered before.calls object evname = [] := by
        by_contra present
        exact unheard ((tracked.has object evname).mpr present)
      exact ⟨_, rfl, tracked.quiet (tracked.lawful.unheard none) (by simp [PipelineCall.registers])
        (by simp [PipelineCall.Gives]) rfl rfl rfl⟩

/-- Code may go on. -/
theorem Tracked.goOn (tracked : state.Tracked) (stack : List (PipelineCode Handler Value World))
    (world : World) : Tracked { state with stack, world } :=
  ⟨tracked.lawful, tracked.has, tracked.own, tracked.given, tracked.fresh⟩

theorem tracked_step {event : Event Handler Value World} (tracked : before.Tracked)
    (stepped : before.step program event = some after) : after.Tracked := by
  cases event with
  | start code =>
      simp only [step, Option.ite_none_right_eq_some] at stepped
      obtain ⟨-, stepped⟩ := stepped
      obtain rfl := Option.some.inj stepped
      exact tracked.goOn [code] before.world
  | run =>
      simp only [step] at stepped
      split at stepped
      · cases stepped
      · obtain rfl := Option.some.inj stepped
        exact tracked.goOn _ _
      · obtain rfl := Option.some.inj stepped
        exact tracked.goOn _ _
      · next number arguments rest stack shape =>
          obtain ⟨closure, found, applied⟩ := Option.bind_eq_some_iff.mp stepped
          have ready := tracked.goOn (rest :: stack) before.world
          obtain ⟨other, same, kept⟩ := @tracked_next _ _ _ program _ _ _ ready found arguments
          obtain rfl := Option.some.inj (same.symm.trans applied)
          exact kept
      · obtain rfl := Option.some.inj stepped
        exact tracked_pipeline (tracked.goOn _ before.world) _ _ _
      · next object evname arguments rest stack shape =>
          have ready := tracked.goOn (rest :: stack) before.world
          obtain ⟨other, same, kept⟩ :=
            @tracked_emit _ _ _ program _ ready object evname arguments
          obtain rfl := Option.some.inj (same.symm.trans stepped)
          exact kept

theorem tracked_initial (world : World) : Tracked ({ world } : Pipelines Handler Value World) where
  lawful := .nil
  has _ _ := by simp [OrderedMap.has, registered]
  own _ _ := rfl
  given := nofun
  fresh := nofun

end Pipelines
end Centro
