import Centro.Construction.Dstroy
import Centro.Proof.Connection.Effects
import Centro.Library.Trace

namespace Centro

open Library

def DstroyCall.isDestroy : DstroyCall → Bool
  | .destroy _ _ => true
  | _ => false

namespace Dstroy

/-- The transport's destroy function is invoked at most once, and not after the close was
reported. -/
def DestroyedOnce (state : Dstroy) : Prop :=
  state.calls.countP DstroyCall.isDestroy ≤ 1 ∧
    NeverAfter (· = DstroyCall.closed) (fun call => call.isDestroy = true) state.calls

/-- No call of `dstroy` comes from inside the destroy function before the close is reported. -/
def Unnested (state : Dstroy) : Event → Prop
  | .dstroy _ => state.running = 0 ∨ state.closed = true
  | _ => True

variable {before after : Dstroy} {event : Event}

/-- A step invokes the destroy function, returns from it, reports the close, or changes none of
these. -/
inductive Moved (before : Dstroy) : Event → Dstroy → Prop
  | quiet {event : Event} {accepted mqserver : Bool}
      (guarded : ∀ now, event = .dstroy now → before.destroyed = true ∨ before.closed = true) :
      Moved before event { before with accepted, mqserver }
  | invoked {now : Bool} (fresh : before.destroyed = false) (unclosed : before.closed = false) :
      Moved before (.dstroy now)
        ({ before with running := before.running + 1 }.call (.destroy before.mqserver now))
  | returned {throws : Option JsString} {warnings : List DstroyCall}
      (inside : before.running ≠ 0)
      (mild : ∀ call ∈ warnings, call.isDestroy = false ∧ call ≠ .closed) :
      Moved before (.returned throws) { before with
        running := before.running - 1, destroyed := true, calls := before.calls ++ warnings }
  | closed (unclosed : before.closed = false) :
      Moved before .closed ({ before with closed := true }.call .closed)

/-- Every step is one of these moves. -/
theorem moved_of_step (stepped : before.step event = some after) : Moved before event after := by
  cases event with
  | accepted | served =>
      simp only [step, Option.ite_none_left_eq_some] at stepped
      obtain ⟨-, stepped⟩ := stepped
      obtain rfl := Option.some.inj stepped
      exact .quiet fun _ same => by cases same
  | dstroy now =>
      simp only [step] at stepped
      split at stepped
      · next guard =>
          obtain rfl := Option.some.inj stepped
          simp only [Bool.and_eq_true, Bool.not_eq_true'] at guard
          exact .invoked guard.1 guard.2
      · next guard =>
          obtain rfl := Option.some.inj stepped
          refine .quiet fun _ _ => ?_
          cases destroyed : before.destroyed with
          | true => exact Or.inl rfl
          | false => exact Or.inr (by simpa [destroyed] using guard)
  | returned throws =>
      simp only [step, Option.ite_none_left_eq_some] at stepped
      obtain ⟨inside, stepped⟩ := stepped
      obtain rfl := Option.some.inj stepped
      cases throws with
      | none =>
          have silent := @Moved.returned before none [] inside (by simp)
          simpa using silent
      | some message => exact .returned inside (by simp [DstroyCall.isDestroy])
  | closed =>
      simp only [step, Option.ite_none_right_eq_some, Bool.and_eq_true, Bool.not_eq_true'] at stepped
      obtain ⟨⟨-, unclosed⟩, stepped⟩ := stepped
      obtain rfl := Option.some.inj stepped
      exact .closed unclosed

/-- A reported close is in the list of calls, and nothing was destroyed after it. -/
structure Reported (state : Dstroy) : Prop where
  closed : .closed ∈ state.calls → state.closed = true
  ordered : NeverAfter (· = DstroyCall.closed) (fun call => call.isDestroy = true) state.calls

/-- A step reports no destruction twice. -/
theorem reported_step (reported : before.Reported) (stepped : before.step event = some after) :
    after.Reported := by
  cases moved_of_step stepped with
  | quiet => exact ⟨reported.closed, reported.ordered⟩
  | invoked fresh unclosed =>
      have early : DstroyCall.closed ∉ before.calls := fun told => by
        rw [reported.closed told] at unclosed
        cases unclosed
      constructor
      · intro told
        exact reported.closed ((mem_concat.mp told).resolve_right (by simp))
      · refine neverAfter_append.mpr ⟨reported.ordered, List.pairwise_singleton _ _, ?_⟩
        rintro ⟨_, member, rfl⟩
        exact absurd member early
  | returned inside mild =>
      constructor
      · intro told
        rcases List.mem_append.mp told with old | new
        · exact reported.closed old
        · exact absurd rfl (mild _ new).2
      · refine neverAfter_append.mpr ⟨reported.ordered, ?_, fun _ call member => ?_⟩
        · exact neverAfter_of_absent fun call member => by simp [(mild call member).1]
        · simp [(mild call member).1]
  | closed unclosed =>
      refine ⟨fun _ => rfl, neverAfter_append.mpr
        ⟨reported.ordered, List.pairwise_singleton _ _, fun _ call member => ?_⟩⟩
      rw [List.mem_singleton.mp member]
      simp [DstroyCall.isDestroy]

/-- The destroy function runs once at most, and it was invoked when it runs or has run. -/
structure Guarded (state : Dstroy) : Prop where
  reported : state.Reported
  depth : state.running ≤ 1
  fresh : state.running = 1 → state.destroyed = false
  count : state.calls.countP DstroyCall.isDestroy =
    if state.running = 1 ∨ state.destroyed = true then 1 else 0

/-- Without a nested call a step destroys the stream at most once. -/
theorem guarded_step (guarded : before.Guarded) (unnested : before.Unnested event)
    (stepped : before.step event = some after) : after.Guarded := by
  have reported := reported_step guarded.reported stepped
  cases moved_of_step stepped with
  | quiet => exact ⟨reported, guarded.depth, guarded.fresh, guarded.count⟩
  | invoked fresh unclosed =>
      have idle : before.running = 0 := unnested.resolve_right (by simp [unclosed])
      have none : before.calls.countP DstroyCall.isDestroy = 0 := by
        rw [guarded.count]
        simp [idle, fresh]
      refine ⟨reported, by simp [call, idle], fun _ => fresh, ?_⟩
      simp [call, idle, none, DstroyCall.isDestroy]
  | @returned throws warnings inside mild =>
      have single : before.running = 1 :=
        Nat.le_antisymm guarded.depth (Nat.pos_of_ne_zero inside)
      have quiet : warnings.countP DstroyCall.isDestroy = 0 :=
        List.countP_eq_zero.mpr fun call member => by simp [(mild call member).1]
      refine ⟨reported, by simp [single], by simp [single], ?_⟩
      rw [List.countP_append, quiet, guarded.count]
      simp [single]
  | closed unclosed =>
      refine ⟨reported, guarded.depth, guarded.fresh, ?_⟩
      rw [call, List.countP_append, guarded.count]
      rfl

/-- A nested call invokes the destroy function again. -/
theorem nested_step (guarded : before.Guarded) (nested : ¬before.Unnested event)
    (stepped : before.step event = some after) : 1 < after.calls.countP DstroyCall.isDestroy := by
  cases event with
  | dstroy now =>
      simp only [Unnested, not_or, Bool.not_eq_true] at nested
      obtain ⟨busy, unclosed⟩ := nested
      have single : before.running = 1 :=
        Nat.le_antisymm guarded.depth (Nat.pos_of_ne_zero busy)
      cases moved_of_step stepped with
      | quiet passed =>
          rcases passed now rfl with destroyed | closed
          · exact absurd destroyed (by simp [guarded.fresh single])
          · exact absurd closed (by simp [unclosed])
      | invoked =>
          rw [call, List.countP_append, guarded.count]
          simp [single, DstroyCall.isDestroy]
  | _ => exact absurd trivial nested

/-- The calls that were made stay, so what went wrong stays wrong. -/
theorem destroyedOnce_step (stepped : before.step event = some after) (once : after.DestroyedOnce) :
    before.DestroyedOnce := by
  have grown : ∃ more, after.calls = before.calls ++ more := by
    cases moved_of_step stepped with
    | quiet => exact ⟨[], (List.append_nil _).symm⟩
    | invoked | returned | closed => exact ⟨_, rfl⟩
  obtain ⟨more, calls⟩ := grown
  obtain ⟨few, ordered⟩ := once
  rw [calls] at few ordered
  refine ⟨Nat.le_trans ?_ few, (neverAfter_append.mp ordered).1⟩
  rw [List.countP_append]
  exact Nat.le_add_right _ _

/-- In a run the transport's destroy function is invoked at most once, and never after the close was
reported, exactly when no call of `dstroy` comes from inside it before that. -/
theorem destroyed_once_iff {events : List Event} {state : Dstroy}
    (ran : system.run system.initial events = some state) :
    system.AllSteps Unnested system.initial events ↔ state.DestroyedOnce := by
  refine @TransitionSystem.allSteps_iff _ _ system _ (fun _ => True) Guarded DestroyedOnce
    (fun _ _ _ _ _ => trivial) ?_ ?_ ?_ ?_ _ _ _ trivial ?_ ran
  · intro state guarded
    refine ⟨?_, guarded.reported.ordered⟩
    rw [guarded.count]
    split <;> simp
  · exact fun _ _ _ _ guarded unnested stepped => guarded_step guarded unnested stepped
  · exact fun _ _ _ _ guarded nested stepped once =>
      absurd once.1 (Nat.not_le.mpr (nested_step guarded nested stepped))
  · exact fun _ _ _ _ wrong stepped once => wrong (destroyedOnce_step stepped once)
  · refine ⟨⟨fun told => ?_, neverAfter_nil⟩, Nat.zero_le _, fun same => ?_, rfl⟩
    · cases told
    · cases same

/-- The listener for an error of the `MQlobberServer` calls `dstroy` inside the destroy function. -/
def sampleNested : List Event :=
  [.accepted, .served, .dstroy false, .dstroy false, .returned none, .returned none]

/-- The transport reports the close before its destroy function throws. -/
def sampleReported : List Event :=
  [.accepted, .dstroy true, .closed, .dstroy false, .returned (some (text "dummy")), .dstroy false]

instance (state : Dstroy) : (event : Event) → Decidable (state.Unnested event)
  | .dstroy _ => inferInstanceAs (Decidable (state.running = 0 ∨ state.closed = true))
  | .accepted | .served | .returned _ | .closed => .isTrue trivial

theorem destroyed_once_iff_sample : ∃ state,
    system.run system.initial sampleReported = some state ∧ state.DestroyedOnce := by
  obtain ⟨state, ran⟩ : ∃ state, system.run system.initial sampleReported = some state := ⟨_, rfl⟩
  exact ⟨state, ran, (destroyed_once_iff ran).mp (by decide)⟩

theorem destroyed_twice : ∃ state,
    system.run system.initial sampleNested = some state ∧
    state.calls = [.destroy true false, .destroy true false] ∧ ¬state.DestroyedOnce := by
  refine ⟨_, rfl, rfl, fun once => ?_⟩
  exact absurd once.1 (by decide)

end Dstroy

/-- These calls of a connection are those of its function `dstroy` and of its close. -/
def Call.dstroyCall : Call → Option DstroyCall
  | .destroy mqserver now => some (.destroy mqserver now)
  | .warning (.thrown message) => some (.warning message)
  | .disconnect _ => some .closed
  | _ => none

namespace Connection

/-- A connection between two events, when no destroy function runs. -/
def dstroy (connection : Connection) : Dstroy where
  accepted := connection.accepted
  mqserver := connection.mqserver
  closed := connection.closed
  destroyed := connection.destroyed
  calls := connection.calls.filterMap Call.dstroyCall

/-- The destroy function of the connection may report the close, and then it returns or throws. -/
def dstroyEvents (connection : Connection) (now : Bool) : List Dstroy.Event :=
  .dstroy now :: if connection.destroyed || connection.closed then []
    else (if connection.channel.closes && connection.accepted then [.closed] else []) ++
      [.returned connection.channel.throws]

/-- The calls of a close tell the destroy function only of the close. -/
theorem dstroyCall_closeCalls (runtime : Runtime) (connection : Connection) :
    (connection.closeCalls runtime).filterMap Call.dstroyCall = [.closed] := by
  have cleared : connection.clearedTimeouts.filterMap Call.dstroyCall = [] := by
    simp [clearedTimeouts, Call.dstroyCall]
  have departed : (connection.departureCalls runtime).filterMap Call.dstroyCall = [] := by
    rw [List.filterMap_eq_nil_iff]
    intro call member
    obtain ⟨entry, -, rfl⟩ := List.mem_map.mp member
    rfl
  simp [closeCalls, cleared, departed, Call.dstroyCall]

end Connection

/-- The call of `dstroy` for a connection is a run of its events. -/
theorem Closure.dstroy_run (runtime : Runtime) (closure : Closure) (now : Bool) :
    Dstroy.system.run closure.connection.dstroy (closure.connection.dstroyEvents now) =
      some (closure.dstroy runtime now).connection.dstroy := by
  rw [dstroy_connection]
  by_cases gone : (closure.connection.destroyed || closure.connection.closed) = true
  · have stays : (!closure.connection.destroyed && !closure.connection.closed) = false := by
      rw [← Bool.not_or, gone]
      rfl
    simp [Connection.dstroyEvents, gone, TransitionSystem.run, Dstroy.system, Dstroy.step,
      Connection.dstroy, stays, Call.dstroyCall]
  · obtain ⟨fresh, unclosed⟩ := not_or.mp (fun either => gone (Bool.or_eq_true _ _ |>.mpr either))
    rw [Bool.not_eq_true] at fresh unclosed
    cases reports : closure.connection.channel.closes && closure.connection.accepted with
    | true =>
        obtain ⟨closes, accepted⟩ := Bool.and_eq_true_iff.mp reports
        cases throws : closure.connection.channel.throws <;>
          simp [Connection.dstroyEvents, fresh, unclosed, closes, accepted, throws,
            TransitionSystem.run, Dstroy.system, Dstroy.step, Dstroy.call, Connection.dstroy,
            destroyCalls, Connection.dstroyCall_closeCalls, Call.dstroyCall, List.filterMap_cons]
    | false =>
        cases throws : closure.connection.channel.throws <;>
          simp [Connection.dstroyEvents, fresh, unclosed, reports, throws,
            TransitionSystem.run, Dstroy.system, Dstroy.step, Dstroy.call, Connection.dstroy,
            destroyCalls, Call.dstroyCall, List.filterMap_cons]

end Centro
