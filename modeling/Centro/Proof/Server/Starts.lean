import Centro.Construction.Lifecycle
import Mathlib.Tactic.Common

namespace Centro

/-- These calls neither are about a callback nor emit `close`. -/
def ServerCall.plain : ServerCall → Bool
  | .closeCalled _ | .close | .calledBack _ _ => false
  | _ => true

/-- Plain calls emit no `close`. -/
theorem ServerCall.close_not_mem {more : List ServerCall}
    (plain : ∀ call ∈ more, ServerCall.plain call = true) : ServerCall.close ∉ more :=
  fun member => absurd (plain _ member) Bool.false_ne_true

/-- The start has failed at the default authorizer, or its last callback was called. -/
def Startup.Settled : Startup → Prop
  | .failed _ | .done _ => True
  | _ => False

namespace Lifecycle

variable {setup : Setup} {lifecycle after : Lifecycle}

/-- While the server starts, only these variables change. -/
structure Starts (lifecycle after : Lifecycle) : Prop where
  before : ¬lifecycle.startup.Settled
  later : ¬after.startup.Settled
  shape : ∃ startup transportOps more, (∀ call ∈ more, ServerCall.plain call = true) ∧
    after = { lifecycle with startup, transportOps, calls := lifecycle.calls ++ more }

/-- The start changes its own variables and makes plain calls. -/
theorem Starts.intro {startup : Startup} (before : ¬lifecycle.startup.Settled)
    (later : ¬startup.Settled) (ops : List (Option TransportOps)) {more : List ServerCall}
    (plain : ∀ call ∈ more, call.plain = true) :
    lifecycle.Starts
      { lifecycle with startup, transportOps := ops, calls := lifecycle.calls ++ more } :=
  ⟨before, later, startup, ops, more, plain, rfl⟩

/-- Parts of the start follow each other. -/
theorem Starts.trans {middle : Lifecycle} (first : lifecycle.Starts middle)
    (second : middle.Starts after) : lifecycle.Starts after := by
  obtain ⟨_, _, more, plain, rfl⟩ := first.shape
  obtain ⟨startup, ops, rest, mute, rfl⟩ := second.shape
  refine ⟨first.before, second.later, startup, ops, more ++ rest, ?_, ?_⟩
  · intro call member
    exact (List.mem_append.mp member).elim (plain call) (mute call)
  · simp

theorem warning_starts (unsettled : ¬lifecycle.startup.Settled) (err : Option JsString) :
    lifecycle.Starts (lifecycle.warning err) := by
  cases err with
  | none => exact ⟨unsettled, unsettled, lifecycle.startup, lifecycle.transportOps, [], by simp,
      by simp [warning]⟩
  | some err => exact .intro unsettled unsettled lifecycle.transportOps (by simp [ServerCall.plain])

theorem call_starts (unsettled : ¬lifecycle.startup.Settled) {made : ServerCall}
    (plain : made.plain = true) : lifecycle.Starts (lifecycle.call made) :=
  .intro unsettled unsettled lifecycle.transportOps (by simpa using plain)

theorem transportsStarted_starts (unsettled : ¬lifecycle.startup.Settled) (err : Option JsString)
    (ops : List (Option TransportOps)) : lifecycle.Starts (lifecycle.transportsStarted err ops) :=
  ⟨unsettled, id, .started err, ops, [], by simp, by simp [transportsStarted]⟩

theorem runTransport_starts (unsettled : ¬lifecycle.startup.Settled) (index : Nat)
    (ops : List (Option TransportOps)) : lifecycle.Starts (lifecycle.runTransport index ops) :=
  ⟨unsettled, id, _, lifecycle.transportOps, [.runTransport index], by simp [ServerCall.plain], rfl⟩

/-- A transport with an authorizer of its own makes it first. -/
theorem startTransport2_starts (unsettled : ¬lifecycle.startup.Settled) (index : Nat)
    (spec : TransportSpec) (ops : List (Option TransportOps)) :
    lifecycle.Starts (lifecycle.startTransport2 index spec ops) := by
  unfold startTransport2
  split
  · exact ⟨unsettled, id, _, lifecycle.transportOps, [.authorizeTransport index],
      by simp [ServerCall.plain], rfl⟩
  · exact runTransport_starts unsettled index ops

/-- The next transport starts, or the start is over. -/
theorem startTransport_starts (unsettled : ¬lifecycle.startup.Settled)
    (ops : List (Option TransportOps)) : lifecycle.Starts (lifecycle.startTransport setup ops) := by
  unfold startTransport
  split
  · exact transportsStarted_starts unsettled none ops
  · next spec _ =>
      have called : lifecycle.Starts (lifecycle.call (.startTransport ops.length)) :=
        call_starts unsettled rfl
      dsimp only
      split
      · refine called.trans ⟨called.later, id, .starting ops.length .fsq ops,
          lifecycle.transportOps, [], by simp, by simp [call]⟩
      · exact called.trans (startTransport2_starts called.later _ spec ops)

/-- A transport that is ready or has failed moves the start on. -/
theorem transportReady_starts (unsettled : ¬lifecycle.startup.Settled) (index : Nat)
    (spec : TransportSpec) (ops : List (Option TransportOps)) (err : Option JsString) :
    lifecycle.Starts (lifecycle.transportReady setup index spec ops err) := by
  cases err with
  | none =>
      have called : lifecycle.Starts (lifecycle.call (.transportReady index)) :=
        call_starts unsettled rfl
      have next : (lifecycle.call (.transportReady index)).Starts
          (lifecycle.transportReady setup index spec ops none) :=
        startTransport_starts called.later _
      exact called.trans next
  | some err =>
      have warned := warning_starts unsettled (some err)
      unfold transportReady
      dsimp only
      split
      · exact warned.trans ⟨unsettled, id, _, lifecycle.transportOps,
          [.closeTransportAuthz index], by simp [ServerCall.plain], rfl⟩
      · exact warned.trans (transportsStarted_starts warned.later (some err) _)

/-- The events of the start change nothing else. -/
theorem start_starts {event : StartEvent} (started : lifecycle.start setup event = some after) :
    lifecycle.Starts after := by
  unfold start at started
  split at started
  · next index stage ops phase =>
      have unsettled : ¬lifecycle.startup.Settled := by
        rw [phase]
        exact id
      obtain ⟨spec, _, started⟩ := Option.bind_eq_some_iff.mp started
      split at started
      · obtain rfl := Option.some.inj started
        exact startTransport2_starts unsettled index spec ops
      · obtain rfl := Option.some.inj started
        exact runTransport_starts unsettled index ops
      · obtain rfl := Option.some.inj started
        exact transportsStarted_starts unsettled _ _
      · obtain rfl := Option.some.inj started
        exact transportReady_starts unsettled index spec ops _
      · obtain rfl := Option.some.inj started
        have warned := warning_starts unsettled
        exact (warned _).trans (transportsStarted_starts (warned _).later _ _)
      · cases started
  · cases started

/-- The first calls of the shutdown are plain. -/
theorem firstCalls_plain (ops : List (Option TransportOps)) :
    ∀ call ∈ ops.zipIdx.flatMap fun (ops, index) => firstCalls index ops, call.plain = true := by
  intro call member
  obtain ⟨⟨ops, index⟩, _, made⟩ := List.mem_flatMap.mp member
  cases ops with
  | none => cases made
  | some ops =>
      simp only [firstCalls] at made
      split at made
      · rw [List.mem_singleton.mp made]
        rfl
      · rw [List.mem_singleton.mp made]
        rfl

/-- The close of a transport begins in a stage in which it has not called back. -/
theorem firstStage_cases (ops : Option TransportOps) :
    firstStage ops ≠ .calledBack ∧ ∀ err, firstStage ops ≠ .wrapped err := by
  cases ops with
  | none => simp [firstStage]
  | some ops =>
      rw [firstStage]
      split <;> simp

/-- The close of one transport makes plain calls. It fails only with an error. -/
theorem closeStage_eq_some {index : Nat} {err failure : Option JsString} {stage last : CloseStage}
    (closed : lifecycle.closeStage index err stage = some (last, failure, after)) :
    stage ≠ .calledBack ∧ (err = none → (∀ err, stage ≠ .wrapped (some err)) →
      failure = none ∧ ∀ err, last ≠ .wrapped (some err)) ∧
    ∃ more, (∀ call ∈ more, ServerCall.plain call = true) ∧
      after = { lifecycle with calls := lifecycle.calls ++ more } := by
  have warns : ∀ err, ∃ more, (∀ call ∈ more, ServerCall.plain call = true) ∧
      lifecycle.warning err = { lifecycle with calls := lifecycle.calls ++ more } := by
    intro err
    cases err with
    | none => exact ⟨[], by simp, by simp [warning]⟩
    | some err => exact ⟨[.warning err], by simp [ServerCall.plain], rfl⟩
  cases stage with
  | deferred =>
      simp only [closeStage, Option.ite_none_right_eq_some, Option.some.injEq,
        Prod.mk.injEq] at closed
      obtain ⟨_, rfl, rfl, rfl⟩ := closed
      exact ⟨by simp, fun _ _ => ⟨rfl, by simp⟩, [], by simp, by simp⟩
  | authz =>
      simp only [closeStage, Option.some.injEq, Prod.mk.injEq] at closed
      obtain ⟨rfl, rfl, rfl⟩ := closed
      obtain ⟨more, plain, same⟩ := warns err
      refine ⟨by simp, fun none _ => ⟨rfl, by simp [none]⟩, more ++ [.closeTransport index], ?_, ?_⟩
      · intro call member
        rcases List.mem_append.mp member with old | new
        · exact plain call old
        · rw [List.mem_singleton.mp new]
          rfl
      · simp [same, call]
  | wrapped err2 =>
      simp only [closeStage, Option.some.injEq, Prod.mk.injEq] at closed
      obtain ⟨rfl, rfl, rfl⟩ := closed
      refine ⟨by simp, fun none clean => ⟨?_, by simp⟩, warns err⟩
      cases err2 with
      | none => simp [none]
      | some err => exact absurd rfl (clean err)
  | plain =>
      simp only [closeStage, Option.some.injEq, Prod.mk.injEq] at closed
      obtain ⟨rfl, rfl, rfl⟩ := closed
      exact ⟨by simp, fun none _ => ⟨none, by simp⟩, [], by simp, by simp⟩
  | calledBack => cases closed

end Lifecycle

end Centro
