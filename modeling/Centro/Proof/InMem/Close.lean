import Centro.Construction.InMemClose
import Centro.Library.Trace
import Mathlib.Data.List.Nodup
import Mathlib.Data.List.Range

namespace Centro

open Library

variable {Error : Type*}

/-- A stream that is destroyed has its event `close` in the queue. -/
def CloseTick.closing : CloseTick Error → Option Side
  | .emitClose side | .emitErrorClose side _ => some side
  | _ => none

def CloseTick.erring (side : Side) : CloseTick Error → Option Error
  | .origEmit other err => if other = side then some err else none
  | _ => none

/-- A stream emits the error with which it was destroyed. -/
def CloseTick.faulting (side : Side) : CloseTick Error → Option Error
  | .emitErrorClose other err => if other = side then some err else none
  | _ => none

def CloseTick.answering : CloseTick Error → Option Nat
  | .listener number => some number
  | _ => none

def CloseCall.closed : CloseCall Error → Option Side
  | .close side => some side
  | _ => none

def CloseCall.erred (side : Side) : CloseCall Error → Option Error
  | .error other err => if other = side then some err else none
  | _ => none

def CloseCall.passed (side : Side) : CloseCall Error → Option Error
  | .origEmit other err => if other = side then some err else none
  | _ => none

def CloseCall.answered : CloseCall Error → Option Nat
  | .cb number => some number
  | _ => none

namespace InMemClose

variable {destroyWait : Option Nat} {pair next : InMemClose Error}

/-- The streams that emitted `close`, in this order. -/
def closed (pair : InMemClose Error) : List Side := pair.calls.filterMap CloseCall.closed

def closing (pair : InMemClose Error) : List Side := pair.ticks.filterMap CloseTick.closing

/-- The errors that a stream emitted itself. -/
def erred (pair : InMemClose Error) (side : Side) : List Error :=
  pair.calls.filterMap (CloseCall.erred side)

/-- The errors that the listeners of a stream got from the peer. -/
def passed (pair : InMemClose Error) (side : Side) : List Error :=
  pair.calls.filterMap (CloseCall.passed side)

def erring (pair : InMemClose Error) (side : Side) : List Error :=
  pair.ticks.filterMap (CloseTick.erring side)

def faulting (pair : InMemClose Error) (side : Side) : List Error :=
  pair.ticks.filterMap (CloseTick.faulting side)

/-- The callbacks that were called. -/
def answered (pair : InMemClose Error) : List Nat := pair.calls.filterMap CloseCall.answered

def answering (pair : InMemClose Error) : List Nat := pair.ticks.filterMap CloseTick.answering

/-- The left stream is destroyed first. -/
def torn (destroyed : Side → Bool) : List Side :=
  (if destroyed .left then [.left] else []) ++ if destroyed .right then [.right] else []

/-- The streams close in order, the errors go on to the peer in order, and each callback is called
or waits at one place. -/
structure Orderly (pair : InMemClose Error) : Prop where
  closes : pair.closed ++ pair.closing = torn pair.destroyed
  left : pair.destroyed .right = true → pair.destroyed .left = true
  errors : ∀ side, pair.passed side ++ pair.erring side = pair.erred side.peer
  answers : (pair.answered ++ pair.answering ++ pair.listeners).Perm (List.range pair.callbacks)
  waits : pair.listeners ≠ [] → .right ∉ pair.closed
  gone : pair.answered ++ pair.answering ≠ [] → pair.destroyed .right = true

theorem orderly_initial : Orderly ({} : InMemClose Error) where
  closes := rfl
  left := nofun
  errors _ := rfl
  answers := .refl _
  waits := by simp
  gone := by simp [answered, answering]

/-- A stream that was not destroyed has its event `close` in the queue now. -/
theorem origDestroy_eq {side : Side} (err : Option Error) (alive : ¬pair.destroyed side = true) :
    ∃ tick : CloseTick Error, tick.closing = some side ∧ (∀ other, tick.erring other = none) ∧
      tick.answering = none ∧ pair.origDestroy side err =
        { pair with
          destroyed := Function.update pair.destroyed side true
          ticks := pair.ticks ++ [tick] } := by
  unfold InMemClose.origDestroy
  rw [if_neg alive]
  cases err <;> exact ⟨_, rfl, fun _ => rfl, rfl, rfl⟩

/-- A stream is destroyed, and the left one before the right one. -/
theorem Orderly.origDestroy {side : Side} {err : Option Error} (orderly : pair.Orderly)
    (first : side = .right → pair.destroyed .left = true) :
    (pair.origDestroy side err).Orderly := by
  by_cases alive : pair.destroyed side = true
  · unfold InMemClose.origDestroy
    rwa [if_pos alive]
  obtain ⟨tick, closes, errs, answers, same⟩ := origDestroy_eq err alive
  rw [same]
  refine ⟨?_, ?_, fun other => ?_, ?_, orderly.waits, ?_⟩
  · have before := orderly.closes
    simp only [closing, List.filterMap_append, List.filterMap_cons, closes,
      List.filterMap_nil, closed] at before ⊢
    rw [← List.append_assoc, before]
    cases side with
    | left =>
        have whole : pair.destroyed .right = false :=
          Bool.eq_false_iff.mpr fun gone => alive (orderly.left gone)
        simp [torn, Function.update, Bool.eq_false_iff.mpr alive, whole]
    | right => simp [torn, Function.update, Bool.eq_false_iff.mpr alive, first rfl]
  · cases side with
    | left => simp [Function.update]
    | right => simp [Function.update, first rfl]
  · simpa [erring, passed, erred, List.filterMap_cons, errs] using orderly.errors other
  · simpa [answering, answered, List.filterMap_cons, answers] using orderly.answers
  · intro some
    have gone := orderly.gone (by
      simpa [answering, answered, List.filterMap_cons, answers] using some)
    cases side <;> simp [Function.update, gone]

theorem destroyed_origDestroy {side : Side} {err : Option Error} :
    (pair.origDestroy side err).destroyed = Function.update pair.destroyed side true := by
  unfold InMemClose.origDestroy
  split
  · next gone =>
      funext other
      by_cases same : other = side
      · subst same
        simp [gone]
      · simp [same]
  · rfl

/-- An immediate destruction takes the left side with the right one. -/
theorem Orderly.destroyNow {err : Option Error} (orderly : pair.Orderly) :
    (pair.destroyNow err).Orderly := by
  have left : (pair.origDestroy .left none).Orderly := orderly.origDestroy (by simp)
  refine left.origDestroy fun _ => ?_
  simp [destroyed_origDestroy]

/-- An immediate destruction leaves no side. -/
theorem destroyed_destroyNow {err : Option Error} (side : Side) :
    (pair.destroyNow err).destroyed side = true := by
  simp only [InMemClose.destroyNow, destroyed_origDestroy]
  cases side <;> simp [Function.update]

/-- Timers are not part of the order. -/
theorem Orderly.timers {timers : List (Option Error)} (orderly : pair.Orderly) :
    Orderly { pair with timers } :=
  ⟨orderly.closes, orderly.left, orderly.errors, orderly.answers, orderly.waits, orderly.gone⟩

/-- A destruction of the right side keeps the sides in order. -/
theorem Orderly.rightDestroy {err : Option Error} {now : Bool} (orderly : pair.Orderly) :
    (pair.rightDestroy destroyWait err now).Orderly := by
  unfold InMemClose.rightDestroy
  split
  · exact orderly.destroyNow
  · exact orderly.timers

theorem Orderly.emitError {side : Side} {err : Error} (orderly : pair.Orderly) :
    (pair.emitError side err).Orderly where
  closes := by
    simpa [InMemClose.emitError, closed, closing, List.filterMap_cons, CloseCall.closed,
      CloseTick.closing] using orderly.closes
  left := orderly.left
  errors other := by
    have before := orderly.errors other
    simp only [passed, erring, erred] at before
    simp only [InMemClose.emitError, passed, erring, erred, List.filterMap_append, ← before]
    cases side <;> cases other <;>
      simp [List.filterMap_cons, CloseCall.passed, CloseCall.erred, CloseTick.erring, Side.peer]
  answers := by
    simpa [InMemClose.emitError, answered, answering, List.filterMap_cons, CloseCall.answered,
      CloseTick.answering] using orderly.answers
  waits some shut := orderly.waits some (by
    simpa [InMemClose.emitError, closed, List.filterMap_cons, CloseCall.closed] using shut)
  gone some := orderly.gone (by
    simpa [InMemClose.emitError, answered, answering, List.filterMap_cons, CloseCall.answered,
      CloseTick.answering] using some)

/-- The left stream destroys its peer although `destroy_wait` may be set. -/
theorem emitClose_left : pair.emitClose destroyWait .left =
    ({ pair with calls := pair.calls ++ [.close .left] } : InMemClose Error).destroyNow none := by
  simp only [emitClose, rightDestroy, or_true, if_true, destroyNow, origDestroy]
  by_cases left : pair.destroyed .left = true <;> by_cases right : pair.destroyed .right = true <;>
    simp [left, right]

/-- The left side is torn down before the right one. -/
theorem torn_extends {destroyed : Side → Bool}
    (left : destroyed .right = true → destroyed .left = true) :
    torn destroyed <+: [.left, .right] := by
  unfold torn
  cases dead : destroyed .left with
  | false =>
      have alive : destroyed .right = false :=
        Bool.eq_false_iff.mpr fun gone => by simp [left gone] at dead
      simp [alive]
  | true => cases destroyed .right <;> simp

/-- A side that was torn down is destroyed. -/
theorem mem_torn {destroyed : Side → Bool} {side : Side} (member : side ∈ torn destroyed) :
    destroyed side = true := by
  unfold torn at member
  rcases List.mem_append.mp member with inside | inside
  · split at inside
    · next gone => rwa [List.mem_singleton.mp inside]
    · simp at inside
  · split at inside
    · next gone => rwa [List.mem_singleton.mp inside]
    · simp at inside

variable {ticks : List (CloseTick Error)}

/-- The queue goes on, and a call is made that says as much. -/
theorem Orderly.pop {tick : CloseTick Error} {call : CloseCall Error} (orderly : pair.Orderly)
    (queue : pair.ticks = tick :: ticks) (close : tick.closing = call.closed)
    (own : ∀ side, call.erred side = none) (pass : ∀ side, tick.erring side = call.passed side)
    (answer : tick.answering = call.answered) (open' : call.closed ≠ some .right) :
    Orderly { pair with ticks, calls := pair.calls ++ [call] } := by
  obtain ⟨closes, left, errors, answers, waits, gone⟩ := orderly
  simp only [closed, closing, passed, erring, erred, answered, answering, queue] at *
  refine ⟨(filterMap_shift close).trans closes, left, fun side => ?_, ?_, fun some shut => ?_,
    fun some => gone ?_⟩
  · refine (filterMap_shift (pass side)).trans ((errors side).trans ?_)
    rw [erred, List.filterMap_append, List.filterMap_cons_none (own _), List.filterMap_nil,
      List.append_nil]
  · rw [answered, answering, filterMap_shift answer]
    exact answers
  · simp only [closed, List.filterMap_append, List.mem_append] at shut
    rcases shut with before | here
    · exact waits some before
    · exact open' (by simpa using here)
  · rw [answered, answering, filterMap_shift answer] at some
    exact some

/-- Listeners in front of the queue count only as listeners. -/
theorem filterMap_listeners {γ : Type*} {read : CloseTick Error → Option γ}
    (none : ∀ number, read (.listener number) = none) (listeners : List Nat) :
    (listeners.map CloseTick.listener ++ ticks).filterMap read = ticks.filterMap read := by
  rw [List.filterMap_append, List.filterMap_map]
  simp [none]

/-- The right stream closes, and its listeners are next. -/
theorem Orderly.closeRight (orderly : pair.Orderly)
    (queue : pair.ticks = .emitClose .right :: ticks) :
    ({ pair with ticks }.emitClose destroyWait .right).Orderly := by
  have dead : pair.destroyed .right = true := by
    refine mem_torn (orderly.closes ▸ List.mem_append_right _ ?_)
    simp [closing, queue, CloseTick.closing]
  obtain ⟨closes, left, errors, answers, waits, gone⟩ := orderly
  simp only [closed, closing, passed, erring, erred, answered, answering, queue] at *
  unfold InMemClose.emitClose
  refine ⟨?_, left, fun side => ?_, ?_, by simp, fun _ => dead⟩
  · rw [closed, closing, filterMap_listeners fun _ => rfl]
    refine Eq.trans ?_ closes
    exact filterMap_shift rfl
  · rw [passed, erring, erred, filterMap_listeners fun _ => rfl]
    have before := errors side
    rw [List.filterMap_cons_none rfl] at before
    rw [List.filterMap_append, List.filterMap_append]
    simpa [List.filterMap_cons, CloseCall.passed, CloseCall.erred] using before
  · have same : (pair.listeners.map CloseTick.listener).filterMap
        (@CloseTick.answering Error) = pair.listeners := by
      simp [List.filterMap_map, Function.comp_def, CloseTick.answering]
    have moved : (pair.calls.filterMap CloseCall.answered ++
        (pair.listeners ++ ticks.filterMap CloseTick.answering)).Perm
          (List.range pair.callbacks) := by
      refine .trans (.append_left _ List.perm_append_comm) ?_
      simpa [List.filterMap_cons, CloseTick.answering] using answers
    simpa [answered, answering, List.filterMap_cons, CloseCall.answered, same] using moved

/-- The left stream closes after its peer was destroyed. -/
theorem Orderly.closeLeft (orderly : pair.Orderly)
    (queue : pair.ticks = .emitClose .left :: ticks) :
    ({ pair with ticks }.emitClose destroyWait .left).Orderly := by
  have popped := @pop _ pair ticks (.emitClose .left) (.close .left) orderly queue rfl
    (fun _ => rfl) (fun _ => rfl) rfl (by simp [CloseCall.closed])
  rw [emitClose_left]
  exact popped.destroyNow

/-- The close of a side keeps the sides in order. -/
theorem Orderly.onclose (orderly : pair.Orderly) : pair.onclose.Orderly := by
  obtain ⟨closes, left, errors, answers, waits, gone⟩ := orderly
  unfold InMemClose.onclose callback
  simp only [closed, closing, passed, erring, erred, answered, answering] at *
  split
  · next dead =>
      refine ⟨?_, left, fun side => ?_, ?_, fun some shut => waits some ?_, fun _ => dead⟩
      · simpa [closed, closing, List.filterMap_cons, CloseCall.closed] using closes
      · simpa [passed, erring, erred, List.filterMap_cons, CloseCall.passed, CloseCall.erred]
          using errors side
      · rw [List.range_succ]
        refine .trans ?_ (answers.append_right [pair.callbacks])
        simp only [answered, answering, List.filterMap_append, List.append_assoc]
        refine .append_left _ (.trans List.perm_append_comm ?_)
        simp [CloseCall.answered]
      · simpa [closed, List.filterMap_cons, CloseCall.closed] using shut
  · next alive =>
      refine ⟨closes, left, errors, ?_, fun _ shut => alive ?_, gone⟩
      · rw [List.range_succ]
        simpa [answered, answering] using answers.append_right [pair.callbacks]
      · exact mem_torn (closes ▸ List.mem_append_left _ shut)

/-- The error of a stream comes before its event `close`. -/
theorem Orderly.requeue {side : Side} {err : Error} (orderly : pair.Orderly)
    (queue : pair.ticks = .emitErrorClose side err :: ticks) :
    Orderly { pair with ticks := .emitClose side :: ticks } := by
  obtain ⟨closes, left, errors, answers, waits, gone⟩ := orderly
  simp only [closing, erring, answering, queue] at closes errors answers gone
  exact ⟨closes, left, errors, answers, waits, gone⟩

/-- Every step keeps the order. -/
theorem Orderly.step {event : Event Error} (orderly : pair.Orderly)
    (stepped : InMemClose.step destroyWait pair event = some next) : next.Orderly := by
  cases event with
  | leftDestroy err =>
      obtain rfl := Option.some.inj stepped
      exact orderly.origDestroy (by simp)
  | rightDestroy err now | destroy now | ended | refused =>
      obtain rfl := Option.some.inj stepped
      exact orderly.rightDestroy
  | error side err =>
      obtain rfl := Option.some.inj stepped
      exact orderly.emitError
  | onclose =>
      obtain rfl := Option.some.inj stepped
      exact orderly.onclose
  | timer index =>
      obtain ⟨err, _, rfl⟩ := Option.map_eq_some_iff.mp stepped
      exact orderly.timers.destroyNow
  | tick =>
      unfold InMemClose.step at stepped
      cases queue : pair.ticks with
      | nil => simp [queue] at stepped
      | cons tick ticks =>
          simp only [queue] at stepped
          cases tick with
          | emitClose side =>
              obtain rfl := Option.some.inj stepped
              cases side with
              | left => exact orderly.closeLeft queue
              | right => exact orderly.closeRight queue
          | emitErrorClose side err =>
              obtain rfl := Option.some.inj stepped
              exact (orderly.requeue queue).emitError
          | origEmit side err =>
              obtain rfl := Option.some.inj stepped
              exact orderly.pop queue rfl (fun _ => rfl) (fun _ => rfl) rfl nofun
          | listener number =>
              obtain rfl := Option.some.inj stepped
              exact orderly.pop queue rfl (fun _ => rfl) (fun _ => rfl) rfl nofun

/-- These events destroy both streams or the left one at once. -/
def Event.Immediate (destroyWait : Option Nat) : Event Error → Prop
  | leftDestroy _ | timer _ => True
  | rightDestroy _ now | destroy now => destroyWait = none ∨ now = true
  | ended | refused => destroyWait = none
  | _ => False

/-- These events destroy a stream now or later. -/
def Event.Asks : Event Error → Prop
  | leftDestroy _ | rightDestroy _ _ | destroy _ | ended | refused => True
  | _ => False

def Event.error? (side : Side) : Event Error → Option Error
  | error other err => if other = side then some err else none
  | _ => none

/-- The event destroys a stream with an error. -/
def Event.Blames (side : Side) (err : Error) : Event Error → Prop
  | leftDestroy fault => side = .left ∧ fault = some err
  | rightDestroy fault _ => side = .right ∧ fault = some err
  | _ => False

theorem destroyed_rightDestroy {err : Option Error} {now : Bool} {side : Side} :
    (pair.rightDestroy destroyWait err now).destroyed side = true ↔
      pair.destroyed side = true ∨ destroyWait = none ∨ now = true := by
  unfold rightDestroy
  split
  · next immediate => simp [destroyed_destroyNow, immediate]
  · next later => simp [later]

/-- Only the queue hears that a stream was destroyed. -/
@[simp] theorem timers_origDestroy {side : Side} {err : Option Error} :
    (pair.origDestroy side err).timers = pair.timers := by
  unfold origDestroy
  split <;> rfl

@[simp] theorem calls_origDestroy {side : Side} {err : Option Error} :
    (pair.origDestroy side err).calls = pair.calls := by
  unfold origDestroy
  split <;> rfl

@[simp] theorem timers_destroyNow {err : Option Error} :
    (pair.destroyNow err).timers = pair.timers := by
  simp [destroyNow]

@[simp] theorem calls_destroyNow {err : Option Error} :
    (pair.destroyNow err).calls = pair.calls := by
  simp [destroyNow]

@[simp] theorem calls_rightDestroy {err : Option Error} {now : Bool} :
    (pair.rightDestroy destroyWait err now).calls = pair.calls := by
  unfold rightDestroy
  split <;> simp

@[simp] theorem destroyed_onclose : pair.onclose.destroyed = pair.destroyed := by
  unfold onclose
  dsimp only
  split <;> rfl

@[simp] theorem timers_onclose : pair.onclose.timers = pair.timers := by
  unfold onclose
  dsimp only
  split <;> rfl

/-- The left stream is destroyed at once or not by this step. -/
theorem destroyed_step {event : Event Error} (orderly : pair.Orderly)
    (stepped : step destroyWait pair event = some next) :
    next.destroyed .left = true ↔
      pair.destroyed .left = true ∨ event.Immediate destroyWait := by
  cases event with
  | leftDestroy err =>
      obtain rfl := Option.some.inj stepped
      simp [destroyed_origDestroy, Event.Immediate]
  | rightDestroy err now | destroy now =>
      obtain rfl := Option.some.inj stepped
      exact destroyed_rightDestroy
  | ended | refused =>
      obtain rfl := Option.some.inj stepped
      simp [destroyed_rightDestroy, Event.Immediate]
  | error side err =>
      obtain rfl := Option.some.inj stepped
      simp [emitError, Event.Immediate]
  | onclose =>
      obtain rfl := Option.some.inj stepped
      simp [Event.Immediate]
  | timer index =>
      obtain ⟨err, _, rfl⟩ := Option.map_eq_some_iff.mp stepped
      simp [destroyed_destroyNow, Event.Immediate]
  | tick =>
      unfold step at stepped
      cases queue : pair.ticks with
      | nil => simp [queue] at stepped
      | cons tick ticks =>
          simp only [queue] at stepped
          cases tick with
          | emitClose side =>
              obtain rfl := Option.some.inj stepped
              cases side with
              | left =>
                  have dead : pair.destroyed .left = true := by
                    refine mem_torn (orderly.closes ▸ List.mem_append_right _ ?_)
                    simp [closing, queue, CloseTick.closing]
                  simp [emitClose_left, destroyed_destroyNow, dead]
              | right => simp [emitClose, Event.Immediate]
          | emitErrorClose side err | origEmit side err | listener number =>
              obtain rfl := Option.some.inj stepped
              simp [emitError, callback, Event.Immediate]

/-- A stream that someone wants destroyed is destroyed or has a timer. -/
theorem asked_step {event : Event Error} (orderly : pair.Orderly)
    (stepped : step destroyWait pair event = some next) :
    (next.destroyed .left = true ∨ next.timers ≠ []) ↔
      (pair.destroyed .left = true ∨ pair.timers ≠ []) ∨ event.Asks := by
  have destroyed := destroyed_step orderly stepped
  cases event with
  | leftDestroy err => simp [destroyed, Event.Immediate, Event.Asks]
  | rightDestroy err now | destroy now | ended | refused =>
      obtain rfl := Option.some.inj stepped
      refine iff_of_true ?_ (.inr trivial)
      unfold rightDestroy
      split
      · exact .inl (destroyed_destroyNow _)
      · exact .inr (by simp)
  | error side err =>
      obtain rfl := Option.some.inj stepped
      simp [emitError, Event.Asks]
  | onclose =>
      obtain rfl := Option.some.inj stepped
      simp [Event.Asks]
  | timer index =>
      obtain ⟨err, found, rfl⟩ := Option.map_eq_some_iff.mp stepped
      refine iff_of_true (.inl (destroyed_destroyNow _)) (.inl (.inr ?_))
      rintro none
      simp [none] at found
  | tick =>
      unfold step at stepped
      cases queue : pair.ticks with
      | nil => simp [queue] at stepped
      | cons tick ticks =>
          have same : next.timers = pair.timers := by
            simp only [queue] at stepped
            cases tick with
            | emitClose side =>
                obtain rfl := Option.some.inj stepped
                cases side with
                | left => rw [emitClose_left, timers_destroyNow]
                | right => rfl
            | emitErrorClose side err | origEmit side err | listener number =>
                obtain rfl := Option.some.inj stepped
                rfl
          simp [destroyed, same, Event.Immediate, Event.Asks]

/-- The left stream closes only after the right one is destroyed. -/
def Shut (pair : InMemClose Error) : Prop :=
  .left ∈ pair.closed → pair.destroyed .right = true

/-- A step that makes no call for a stream that closes keeps the streams that closed. -/
theorem Shut.of_calls (calls : List (CloseCall Error)) (shut : pair.Shut)
    (grows : next.calls = pair.calls ++ calls) (open' : .close .left ∉ calls)
    (stays : pair.destroyed .right = true → next.destroyed .right = true) : next.Shut := by
  intro member
  refine stays (shut ?_)
  rw [closed, grows, List.filterMap_append, List.mem_append] at member
  refine member.resolve_right fun inside => ?_
  obtain ⟨call, made, closes⟩ := List.mem_filterMap.mp inside
  cases call with
  | close side =>
      obtain rfl := Option.some.inj closes
      exact open' made
  | error side err | origEmit side err | cb number => exact nomatch closes

/-- A step undoes no destruction. -/
theorem Shut.step {event : Event Error} (shut : pair.Shut)
    (stepped : InMemClose.step destroyWait pair event = some next) : next.Shut := by
  cases event with
  | leftDestroy err =>
      obtain rfl := Option.some.inj stepped
      exact shut.of_calls [] (by simp) (by simp) (by simp [destroyed_origDestroy])
  | rightDestroy err now | destroy now | ended | refused =>
      obtain rfl := Option.some.inj stepped
      refine shut.of_calls [] (by simp) (by simp) fun dead => ?_
      exact destroyed_rightDestroy.mpr (.inl dead)
  | error side err =>
      obtain rfl := Option.some.inj stepped
      exact shut.of_calls _ rfl (by simp) id
  | onclose =>
      obtain rfl := Option.some.inj stepped
      unfold onclose callback
      dsimp only
      split
      · exact shut.of_calls _ rfl (by simp) id
      · exact shut
  | timer index =>
      obtain ⟨err, _, rfl⟩ := Option.map_eq_some_iff.mp stepped
      exact fun _ => destroyed_destroyNow .right
  | tick =>
      unfold InMemClose.step at stepped
      cases queue : pair.ticks with
      | nil => simp [queue] at stepped
      | cons tick ticks =>
          simp only [queue] at stepped
          cases tick with
          | emitClose side =>
              obtain rfl := Option.some.inj stepped
              cases side with
              | left =>
                  rw [emitClose_left]
                  exact fun _ => destroyed_destroyNow .right
              | right => exact shut.of_calls _ rfl (by simp) id
          | emitErrorClose side err | origEmit side err | listener number =>
              obtain rfl := Option.some.inj stepped
              exact shut.of_calls _ rfl (by simp) id

/-- A stream emits the errors that someone emits on it, and at most one with which it is
destroyed. -/
structure Faults (past : List (Event Error)) (pair : InMemClose Error) : Prop where
  errors : ∀ side, ∃ fault : Option Error,
    (pair.erred side ++ pair.faulting side).Perm
      (past.filterMap (Event.error? side) ++ fault.toList) ∧
    (pair.destroyed side = false → fault = none) ∧
    ∀ err ∈ fault, ∃ event ∈ past, event.Blames side err
  timers : ∀ err, some err ∈ pair.timers → ∃ event ∈ past, event.Blames .right err

variable {past : List (Event Error)}

/-- A destruction passes its error on to its own side. -/
theorem Faults.origDestroy {side : Side} {err : Option Error} (faults : pair.Faults past)
    (blamed : ∀ fault ∈ err, ∃ event ∈ past, event.Blames side fault) :
    (pair.origDestroy side err).Faults past := by
  refine ⟨fun other => ?_, by simpa using faults.timers⟩
  obtain ⟨fault, errors, none, blames⟩ := faults.errors other
  by_cases alive : pair.destroyed side = true
  · unfold InMemClose.origDestroy
    rw [if_pos alive]
    exact ⟨fault, errors, none, blames⟩
  by_cases same : side = other
  · subst same
    obtain rfl := none (by simpa using alive)
    refine ⟨err, ?_, by simp [destroyed_origDestroy], blamed⟩
    unfold InMemClose.origDestroy
    rw [if_neg alive]
    cases err with
    | none => simpa [erred, faulting, List.filterMap_cons, CloseTick.faulting] using errors
    | some err =>
        have more := errors.append_right [err]
        simpa [erred, faulting, CloseTick.faulting] using more
  · refine ⟨fault, ?_, ?_, blames⟩
    · unfold InMemClose.origDestroy
      rw [if_neg alive]
      cases err <;>
        simpa [erred, faulting, List.filterMap_cons, CloseTick.faulting, same] using errors
    · rw [destroyed_origDestroy, Function.update_of_ne (Ne.symm same)]
      exact none

/-- An immediate destruction blames the right side. -/
theorem Faults.destroyNow {err : Option Error} (faults : pair.Faults past)
    (blamed : ∀ fault ∈ err, ∃ event ∈ past, event.Blames .right fault) :
    (pair.destroyNow err).Faults past := by
  have left : (pair.origDestroy .left none).Faults past := faults.origDestroy (by simp)
  exact left.origDestroy blamed

theorem Faults.rightDestroy {err : Option Error} {now : Bool} (faults : pair.Faults past)
    (blamed : ∀ fault ∈ err, ∃ event ∈ past, event.Blames .right fault) :
    (pair.rightDestroy destroyWait err now).Faults past := by
  unfold InMemClose.rightDestroy
  split
  · exact faults.destroyNow blamed
  · refine ⟨faults.errors, fun fault member => ?_⟩
    rcases mem_concat.mp member with before | rfl
    · exact faults.timers fault before
    · exact blamed fault rfl

/-- Another event goes by. -/
theorem Faults.later {event : Event Error} (faults : pair.Faults past)
    (quiet : ∀ side, event.error? side = none) : pair.Faults (past ++ [event]) := by
  have still {side : Side} {err : Error} (blamed : ∃ event ∈ past, event.Blames side err) :
      ∃ other ∈ past ++ [event], other.Blames side err :=
    blamed.imp fun _ => And.imp_left (List.mem_append_left _)
  refine ⟨fun side => ?_, fun err member => still (faults.timers err member)⟩
  obtain ⟨fault, errors, none, blames⟩ := faults.errors side
  refine ⟨fault, ?_, none, fun err is => still (blames err is)⟩
  simpa [List.filterMap_cons, quiet] using errors

/-- Someone emits an error on a stream. -/
theorem Faults.emitError {side : Side} {err : Error} (faults : pair.Faults past) :
    (pair.emitError side err).Faults (past ++ [.error side err]) := by
  have still {other : Side} {fault : Error} (blamed : ∃ event ∈ past, event.Blames other fault) :
      ∃ event ∈ past ++ [.error side err], event.Blames other fault :=
    blamed.imp fun _ => And.imp_left (List.mem_append_left _)
  refine ⟨fun other => ?_, fun fault member => still (faults.timers fault member)⟩
  obtain ⟨fault, errors, none, blames⟩ := faults.errors other
  refine ⟨fault, ?_, none, fun err is => still (blames err is)⟩
  simp only [erred, faulting] at errors
  by_cases same : side = other
  · subst same
    have more : (pair.calls.filterMap (CloseCall.erred side) ++
        (err :: pair.ticks.filterMap (CloseTick.faulting side))).Perm
          (past.filterMap (Event.error? side) ++ (err :: fault.toList)) :=
      .trans List.perm_middle (.trans (errors.cons err) List.perm_middle.symm)
    simpa [InMemClose.emitError, erred, faulting, CloseCall.erred, CloseTick.faulting,
      Event.error?, List.filterMap_cons] using more
  · simpa [InMemClose.emitError, erred, faulting, CloseCall.erred, CloseTick.faulting,
      Event.error?, List.filterMap_cons, same] using errors

/-- These parts of a pair tell the errors. -/
theorem Faults.of_same (faults : pair.Faults past)
    (errors : ∀ side, next.erred side ++ next.faulting side = pair.erred side ++ pair.faulting side)
    (destroyed : next.destroyed = pair.destroyed) (timers : next.timers = pair.timers) :
    next.Faults past := by
  refine ⟨fun side => ?_, timers ▸ faults.timers⟩
  rw [errors, destroyed]
  exact faults.errors side

/-- A step adds only errors that its event explains. -/
theorem Faults.step {event : Event Error} (faults : pair.Faults past)
    (stepped : InMemClose.step destroyWait pair event = some next) :
    next.Faults (past ++ [event]) := by
  cases event with
  | leftDestroy err =>
      obtain rfl := Option.some.inj stepped
      exact (faults.later fun _ => rfl).origDestroy fun fault is =>
        ⟨.leftDestroy err, by simp, rfl, is⟩
  | rightDestroy err now =>
      obtain rfl := Option.some.inj stepped
      exact (faults.later fun _ => rfl).rightDestroy fun fault is =>
        ⟨.rightDestroy err now, by simp, rfl, is⟩
  | destroy now | ended | refused =>
      obtain rfl := Option.some.inj stepped
      exact (faults.later fun _ => rfl).rightDestroy (by simp)
  | error side err =>
      obtain rfl := Option.some.inj stepped
      exact faults.emitError
  | onclose =>
      obtain rfl := Option.some.inj stepped
      refine (faults.later fun _ => rfl).of_same (fun side => ?_) (by simp) (by simp)
      unfold InMemClose.onclose callback
      dsimp only
      split <;> simp [erred, faulting, List.filterMap_cons, CloseCall.erred]
  | timer index =>
      obtain ⟨err, found, rfl⟩ := Option.map_eq_some_iff.mp stepped
      have member := List.mem_of_getElem? found
      have fewer : Faults (past ++ [.timer index])
          { pair with timers := pair.timers.eraseIdx index } := by
        refine ⟨(faults.later fun _ => rfl).errors, fun fault inside => ?_⟩
        exact (faults.later fun _ => rfl).timers fault (List.mem_of_mem_eraseIdx inside)
      exact fewer.destroyNow fun fault is => (faults.later fun _ => rfl).timers fault (is ▸ member)
  | tick =>
      have faults : pair.Faults (past ++ [.tick]) := faults.later fun _ => rfl
      unfold InMemClose.step at stepped
      cases queue : pair.ticks with
      | nil => simp [queue] at stepped
      | cons tick ticks =>
          simp only [queue] at stepped
          cases tick with
          | emitClose side =>
              obtain rfl := Option.some.inj stepped
              cases side with
              | left =>
                  have goes : Faults (past ++ [.tick])
                      { pair with ticks, calls := pair.calls ++ [.close .left] } := by
                    refine faults.of_same (fun side => ?_) rfl rfl
                    simp [erred, faulting, queue, List.filterMap_cons, CloseCall.erred,
                      CloseTick.faulting]
                  rw [emitClose_left]
                  exact goes.destroyNow nofun
              | right =>
                  refine faults.of_same (fun side => ?_) rfl rfl
                  rw [erred, faulting, InMemClose.emitClose, filterMap_listeners fun _ => rfl]
                  simp [erred, faulting, queue, List.filterMap_cons, CloseCall.erred,
                    CloseTick.faulting]
          | emitErrorClose side err =>
              obtain rfl := Option.some.inj stepped
              refine faults.of_same (fun other => ?_) rfl rfl
              by_cases same : side = other <;>
                simp [InMemClose.emitError, erred, faulting, queue, List.filterMap_cons,
                  CloseCall.erred, CloseTick.faulting, same]
          | origEmit side err | listener number =>
              obtain rfl := Option.some.inj stepped
              refine faults.of_same (fun other => ?_) rfl rfl
              simp [callback, erred, faulting, queue, List.filterMap_cons, CloseCall.erred,
                CloseTick.faulting]

/-- The state and the events of a run go together. -/
structure History (destroyWait : Option Nat) (past : List (Event Error))
    (pair : InMemClose Error) : Prop where
  orderly : pair.Orderly
  shut : pair.Shut
  faults : pair.Faults past
  destroyed : pair.destroyed .left = true ↔ ∃ event ∈ past, event.Immediate destroyWait
  asked : pair.destroyed .left = true ∨ pair.timers ≠ [] ↔ ∃ event ∈ past, event.Asks

theorem history_initial : History destroyWait [] ({} : InMemClose Error) where
  orderly := orderly_initial
  shut := nofun
  faults := ⟨fun _ => ⟨none, .refl _, fun _ => rfl, nofun⟩, nofun⟩
  destroyed := by simp
  asked := by simp

/-- A step continues the history. -/
theorem History.step {event : Event Error} (history : History destroyWait past pair)
    (stepped : InMemClose.step destroyWait pair event = some next) :
    History destroyWait (past ++ [event]) next where
  orderly := history.orderly.step stepped
  shut := history.shut.step stepped
  faults := history.faults.step stepped
  destroyed := by
    rw [destroyed_step history.orderly stepped, history.destroyed]
    simp [or_and_right, exists_or]
  asked := by
    rw [asked_step history.orderly stepped, history.asked]
    simp [or_and_right, exists_or]

/-- A run is a history of its events. -/
theorem history_of_run {events : List (Event Error)}
    (ran : (system destroyWait).run (system destroyWait).initial events = some pair) :
    History destroyWait events pair := by
  rw [← List.nil_append events]
  exact TransitionSystem.run_history (fun _ _ _ _ history stepped => history.step stepped)
    history_initial ran

/-- The two streams close once and the left one first. The left stream is destroyed at once by the
events that do not wait, and when nothing is left to do, both streams have closed and every callback
was called once, if anyone asked for it, and otherwise nothing happened. -/
theorem inMem_closes (destroyWait : Option Nat) (events : List (Event Error))
    (ran : (system destroyWait).run (system destroyWait).initial events = some pair) :
    pair.closed <+: [.left, .right] ∧
    (pair.answered.Nodup ∧ ∀ number ∈ pair.answered,
      number < pair.callbacks ∧ pair.destroyed .right = true) ∧
    (pair.destroyed .left = true ↔ ∃ event ∈ events, event.Immediate destroyWait) ∧
    (pair.ticks = [] → pair.timers = [] →
      ((∃ event ∈ events, event.Asks) → pair.closed = [.left, .right] ∧
        pair.answered.Perm (List.range pair.callbacks)) ∧
      ((∀ event ∈ events, ¬event.Asks) → pair.closed = [] ∧ pair.answered = [])) := by
  have history := history_of_run ran
  obtain ⟨closes, left, errors, answers, waits, gone⟩ := history.orderly
  have once : (pair.answered ++ pair.answering ++ pair.listeners).Nodup :=
    answers.nodup_iff.mpr List.nodup_range
  refine ⟨?_, ⟨once.of_append_left.of_append_left, fun number member => ⟨?_, ?_⟩⟩,
    history.destroyed, fun ticks timers => ⟨fun asked => ?_, fun unasked => ?_⟩⟩
  · exact .trans ⟨pair.closing, closes⟩ (torn_extends left)
  · have inside := answers.subset (List.mem_append_left _ (List.mem_append_left _ member))
    exact List.mem_range.mp inside
  · exact gone (List.append_ne_nil_of_left_ne_nil (List.ne_nil_of_mem member) _)
  · have first := (history.asked.mpr asked).resolve_right (not_not.mpr timers)
    have whole : pair.closed = torn pair.destroyed := by simpa [closing, ticks] using closes
    have dead : pair.destroyed .right = true := history.shut (by simp [whole, torn, first])
    have both : pair.closed = [.left, .right] := by simp [whole, torn, first, dead]
    have none : pair.listeners = [] := by
      by_contra some
      exact waits some (by simp [both])
    refine ⟨both, ?_⟩
    simpa [answering, ticks, none] using answers
  · have alive : ¬pair.destroyed .left = true := by
      intro dead
      obtain ⟨event, member, asks⟩ := history.asked.mp (.inl dead)
      exact unasked event member asks
    have whole : ¬pair.destroyed .right = true := alive ∘ left
    constructor
    · simpa [closing, ticks, torn, alive, whole] using closes
    · have none := not_not.mp (mt gone whole)
      exact (List.append_eq_nil_iff.mp none).1

/-- The pair is destroyed with a timer, and a callback waits for it. -/
theorem inMem_closes_sample : ∃ pair : InMemClose Nat,
    (system (some 1000)).run {} [.onclose, .ended, .timer 0, .tick, .tick, .tick] = some pair ∧
      pair.closed = [.left, .right] ∧ pair.answered.Perm (List.range 1) :=
  ⟨_, rfl, (((inMem_closes (some 1000) [.onclose, .ended, .timer 0, .tick, .tick, .tick] rfl).2.2.2
    rfl rfl).1 ⟨.ended, by simp, trivial⟩)⟩

/-- Each error that a stream emits reaches the listeners of its peer once and in order, and it does
not come back. A stream emits the errors that someone emits on it, and at most one more with which
someone destroyed it. -/
theorem inMem_errors (destroyWait : Option Nat) (events : List (Event Error))
    (ran : (system destroyWait).run (system destroyWait).initial events = some pair)
    (side : Side) :
    pair.passed side <+: pair.erred side.peer ∧
    (pair.ticks = [] → pair.passed side = pair.erred side.peer ∧
      ∃ fault : Option Error,
        (pair.erred side).Perm (events.filterMap (Event.error? side) ++ fault.toList) ∧
        ∀ err ∈ fault, ∃ event ∈ events, event.Blames side err) := by
  have history := history_of_run ran
  have errors := history.orderly.errors side
  refine ⟨⟨_, errors⟩, fun ticks => ⟨by simpa [erring, ticks] using errors, ?_⟩⟩
  obtain ⟨fault, own, _, blames⟩ := history.faults.errors side
  exact ⟨fault, by simpa [faulting, ticks] using own, blames⟩

/-- The left stream is destroyed with an error after it emitted another one. -/
theorem inMem_errors_sample : ∃ pair : InMemClose Nat,
    (system none).run {}
      [.error .left 7, .leftDestroy (some 8), .tick, .tick, .tick, .tick, .tick] = some pair ∧
      pair.passed .right = pair.erred .left ∧ pair.erred .left = [7, 8] :=
  ⟨_, rfl, ((inMem_errors none [.error .left 7, .leftDestroy (some 8), .tick, .tick, .tick, .tick,
    .tick] rfl .right).2 rfl).1, rfl⟩

end InMemClose
end Centro
