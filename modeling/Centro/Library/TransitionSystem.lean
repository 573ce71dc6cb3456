import Mathlib.Tactic.TypeStar
import Mathlib.Tactic.Common

namespace Centro.Library

/-- A transition system answers each event in a state with at most one next state. -/
structure TransitionSystem (State Event : Type*) where
  initial : State
  step : State → Event → Option State

namespace TransitionSystem

variable {State Event Part Move : Type*}

/-- These states follow from the initial state by steps that all meet the condition. -/
inductive ReachableUnder (system : TransitionSystem State Event)
    (allowed : State → Event → Prop) : State → Prop where
  | initial : ReachableUnder system allowed system.initial
  | step {before after : State} {event : Event} :
      ReachableUnder system allowed before → allowed before event →
        system.step before event = some after → ReachableUnder system allowed after

/-- These states follow from the initial state by any steps. -/
abbrev Reachable (system : TransitionSystem State Event) : State → Prop :=
  system.ReachableUnder fun _ _ => True

/-- A run takes the listed events in order. -/
def run (system : TransitionSystem State Event) : State → List Event → Option State
  | state, [] => some state
  | state, event :: rest => (system.step state event).bind fun next => system.run next rest

/-- Every step that the run takes meets the condition in the state before it. -/
def AllSteps (system : TransitionSystem State Event) (allowed : State → Event → Prop) :
    State → List Event → Prop
  | _, [] => True
  | state, event :: rest => ∀ next, system.step state event = some next →
      allowed state event ∧ system.AllSteps allowed next rest

variable {system : TransitionSystem State Event} {allowed : State → Event → Prop}

/-- A weaker condition reaches at least the same states. -/
theorem ReachableUnder.mono {weaker : State → Event → Prop}
    (weakens : ∀ state event, allowed state event → weaker state event) {state : State}
    (reached : system.ReachableUnder allowed state) : system.ReachableUnder weaker state := by
  induction reached with
  | initial => exact .initial
  | step _ meets stepped ih => exact .step ih (weakens _ _ meets) stepped

theorem ReachableUnder.reachable {state : State}
    (reached : system.ReachableUnder allowed state) : system.Reachable state :=
  reached.mono fun _ _ _ => trivial

/-- A property of the initial state that the steps keep holds in every reached state. -/
theorem ReachableUnder.invariant {property : State → Prop} (start : property system.initial)
    (kept : ∀ before event after, property before → allowed before event →
      system.step before event = some after → property after)
    {state : State} (reached : system.ReachableUnder allowed state) : property state := by
  induction reached with
  | initial => exact start
  | step _ meets stepped ih => exact kept _ _ _ ih meets stepped

/-- A run whose steps meet the condition ends in a reached state. -/
theorem ReachableUnder.run {events : List Event} {state last : State}
    (reached : system.ReachableUnder allowed state) (meets : system.AllSteps allowed state events)
    (ran : system.run state events = some last) : system.ReachableUnder allowed last := by
  induction events generalizing state with
  | nil =>
      obtain rfl : state = last := by simpa [TransitionSystem.run] using ran
      exact reached
  | cons event rest ih =>
      obtain ⟨next, stepped, ran⟩ := Option.bind_eq_some_iff.mp ran
      obtain ⟨here, later⟩ := meets next stepped
      exact ih (.step reached here stepped) later ran

/-- A property that the steps keep from a state holds after every run from it. -/
theorem run_invariant {property : State → Prop}
    (kept : ∀ before event after, property before → system.step before event = some after →
      property after) {events : List Event} {state last : State} (start : property state)
    (ran : system.run state events = some last) : property last := by
  induction events generalizing state with
  | nil =>
      obtain rfl : state = last := by simpa [TransitionSystem.run] using ran
      exact start
  | cons event rest ih =>
      obtain ⟨next, stepped, ran⟩ := Option.bind_eq_some_iff.mp ran
      exact ih (kept _ _ _ start stepped) ran

/-- A property of the events so far and the state that each step carries on holds after a run. -/
theorem run_history {property : List Event → State → Prop}
    (kept : ∀ past before event after, property past before →
      system.step before event = some after → property (past ++ [event]) after)
    {past events : List Event} {state last : State} (start : property past state)
    (ran : system.run state events = some last) : property (past ++ events) last := by
  induction events generalizing past state with
  | nil =>
      obtain rfl : state = last := by simpa [TransitionSystem.run] using ran
      rwa [List.append_nil]
  | cons event rest ih =>
      obtain ⟨next, stepped, ran⟩ := Option.bind_eq_some_iff.mp ran
      rw [List.append_cons]
      exact ih (kept _ _ _ _ start stepped) ran

/-- A run takes this many steps that are marked. -/
def countSteps (system : TransitionSystem State Event) (marked : State → Event → Bool) :
    State → List Event → Nat
  | _, [] => 0
  | state, event :: rest =>
      match system.step state event with
      | none => 0
      | some next => (if marked state event then 1 else 0) + system.countSteps marked next rest

/-- A measure that grows by one in each marked step and in no other tells how many steps of a run
were marked. -/
theorem countSteps_eq {marked : State → Event → Bool} {base : State → Prop} {measure : State → Nat}
    (based : ∀ before event after, base before → system.step before event = some after → base after)
    (grows : ∀ before event after, base before → system.step before event = some after →
      measure after = measure before + if marked before event then 1 else 0)
    {events : List Event} {state last : State} (holds : base state)
    (ran : system.run state events = some last) :
    measure last = measure state + system.countSteps marked state events := by
  induction events generalizing state with
  | nil =>
      obtain rfl : state = last := by simpa [TransitionSystem.run] using ran
      rfl
  | cons event rest ih =>
      obtain ⟨next, stepped, ran⟩ := Option.bind_eq_some_iff.mp ran
      rw [ih (based _ _ _ holds stepped) ran, grows _ _ _ holds stepped, countSteps, stepped,
        Nat.add_assoc]

/-- A run ends well exactly when its steps meet the condition, if an invariant goes with the
condition, the first other step does damage, and damage stays. The `base` holds in every run. -/
theorem allSteps_iff {base invariant good : State → Prop}
    (based : ∀ before event after, base before → system.step before event = some after → base after)
    (sound : ∀ state, invariant state → good state)
    (kept : ∀ before event after, base before → invariant before → allowed before event →
      system.step before event = some after → invariant after)
    (broken : ∀ before event after, base before → invariant before → ¬allowed before event →
      system.step before event = some after → ¬good after)
    (stays : ∀ before event after, base before → ¬good before →
      system.step before event = some after → ¬good after)
    {events : List Event} {state last : State} (holds : base state) (start : invariant state)
    (ran : system.run state events = some last) :
    system.AllSteps allowed state events ↔ good last := by
  induction events generalizing state with
  | nil =>
      obtain rfl : state = last := by simpa [TransitionSystem.run] using ran
      exact iff_of_true trivial (sound state start)
  | cons event rest ih =>
      obtain ⟨next, stepped, ran⟩ := Option.bind_eq_some_iff.mp ran
      have nextHolds := based _ _ _ holds stepped
      by_cases meets : allowed state event
      · rw [← ih nextHolds (kept _ _ _ holds start meets stepped) ran]
        refine ⟨fun all => (all next stepped).2, fun later other same => ?_⟩
        obtain rfl := Option.some.inj (stepped.symm.trans same)
        exact ⟨meets, later⟩
      · have damaged : base last ∧ ¬good last := by
          refine @run_invariant _ _ system (fun state => base state ∧ ¬good state) ?_ _ _ _
            ⟨nextHolds, broken _ _ _ holds start meets stepped⟩ ran
          exact fun _ _ _ both stepped =>
            ⟨based _ _ _ both.1 stepped, stays _ _ _ both.1 both.2 stepped⟩
        exact iff_of_false (fun all => meets (all next stepped).1) damaged.2

instance decidableAllSteps [∀ state event, Decidable (allowed state event)] :
    (state : State) → (events : List Event) → Decidable (system.AllSteps allowed state events)
  | _, [] => .isTrue trivial
  | state, event :: rest =>
      match stepped : system.step state event with
      | none => .isTrue (by simp [AllSteps, stepped])
      | some next =>
          haveI := decidableAllSteps next rest
          decidable_of_iff (allowed state event ∧ system.AllSteps allowed next rest)
            (by simp [AllSteps, stepped])

/-- A condition on the events alone is one on the list. -/
theorem allSteps_of_forall {events : List Event}
    (all : ∀ event ∈ events, ∀ state, allowed state event) (state : State) :
    system.AllSteps allowed state events := by
  induction events generalizing state with
  | nil => trivial
  | cons event rest ih =>
      intro next _
      exact ⟨all event List.mem_cons_self state,
        ih (fun other member => all other (List.mem_cons_of_mem _ member)) next⟩

theorem allSteps_true (state : State) (events : List Event) :
    system.AllSteps (fun _ _ => True) state events :=
  allSteps_of_forall (fun _ _ _ => trivial) state

/-- Every complete run from the initial state ends in a reachable state. -/
theorem reachable_of_run {events : List Event} {last : State}
    (ran : system.run system.initial events = some last) : system.Reachable last :=
  ReachableUnder.initial.run (allSteps_true _ _) ran

/-- A run may take one step or none. -/
theorem run_optional {condition : Prop} [Decidable condition] {event : Event}
    {state next last : State} (moved : last = if condition then next else state)
    (stepped : condition → system.step state event = some next) :
    system.run state (if condition then [event] else []) = some last := by
  subst moved
  split
  · next holds => rw [TransitionSystem.run, stepped holds]; rfl
  · rfl

/-- A projection shows each step of a system as a run of one of its parts. -/
structure Projection (whole : TransitionSystem State Event)
    (part : TransitionSystem Part Move) where
  view : State → Part
  moves : State → Event → List Move
  initial : view whole.initial = part.initial
  step : ∀ before event after, whole.step before event = some after →
    part.run (view before) (moves before event) = some (view after)

/-- A reached state of the system shows a reached state of the part. -/
theorem Projection.reachableUnder {whole : TransitionSystem State Event}
    {part : TransitionSystem Part Move} (projection : Projection whole part)
    {allowed : State → Event → Prop} {permitted : Part → Move → Prop}
    (meets : ∀ before event, allowed before event →
      part.AllSteps permitted (projection.view before) (projection.moves before event))
    {state : State} (reached : whole.ReachableUnder allowed state) :
    part.ReachableUnder permitted (projection.view state) := by
  induction reached with
  | initial => rw [projection.initial]; exact .initial
  | step _ allowed stepped ih => exact ih.run (meets _ _ allowed) (projection.step _ _ _ stepped)

theorem Projection.reachable {whole : TransitionSystem State Event}
    {part : TransitionSystem Part Move} (projection : Projection whole part) {state : State}
    (reached : whole.Reachable state) : part.Reachable (projection.view state) :=
  projection.reachableUnder (fun _ _ _ => allSteps_true _ _) reached

end TransitionSystem
end Centro.Library
