import Centro.Proof.Server.Phases

namespace Centro

open Library

/-- These calls start and close the parts of the server. -/
def ServerCall.tracked : ServerCall → Bool
  | .error _ | .startTransport _ | .runTransport _ | .ready | .closeAuthz => true
  | .closeTransportAuthz _ | .closeTransport _ => true
  | _ => false

/-- The start of one transport makes these calls before it ends. -/
def StartStage.calls (index : Nat) : StartStage → List ServerCall
  | .fsq | .authorizing => []
  | .running => [.runTransport index]
  | .closingAuthz _ => [.runTransport index, .closeTransportAuthz index]

namespace Lifecycle

variable {setup : Setup} {lifecycle after : Lifecycle}

/-- These are the tracked calls in their order. -/
def tracked (lifecycle : Lifecycle) : List ServerCall :=
  lifecycle.calls.filter ServerCall.tracked

/-- The tracked calls grow by the tracked ones among the new calls. -/
theorem tracked_append {more : List ServerCall} (calls : after.calls = lifecycle.calls ++ more) :
    after.tracked = lifecycle.tracked ++ more.filter ServerCall.tracked := by
  rw [tracked, calls, List.filter_append]
  rfl

/-- Calls that are not tracked add nothing. -/
theorem tracked_quiet {more : List ServerCall} (calls : after.calls = lifecycle.calls ++ more)
    (quiet : ∀ call ∈ more, call.tracked = false) : after.tracked = lifecycle.tracked := by
  rw [tracked_append calls, List.filter_eq_nil_iff.mpr, List.append_nil]
  intro call member
  simp [quiet call member]

theorem tracked_called {made : ServerCall} (counts : made.tracked = true) :
    (lifecycle.call made).tracked = lifecycle.tracked ++ [made] := by
  simp [tracked, call, counts]

theorem tracked_ignored {made : ServerCall} (ignores : made.tracked = false) :
    (lifecycle.call made).tracked = lifecycle.tracked := by
  simp [tracked, call, ignores]

/-- The transports in front were started and run one after the other. -/
def startedCalls (count : Nat) : List ServerCall :=
  (List.range count).flatMap fun index => [.startTransport index, .runTransport index]

/-- The transports in front have these operations. -/
def collected (setup : Setup) (count : Nat) : List (Option TransportOps) :=
  (setup.transports.take count).map fun spec => some { authz := spec.authorizeConfig }

/-- Each transport is started and then run. -/
theorem startedCalls_succ (count : Nat) :
    startedCalls (count + 1) = startedCalls count ++ [.startTransport count, .runTransport count] := by
  simp [startedCalls, List.range_succ]

theorem collected_length {count : Nat} (inside : count ≤ setup.transports.length) :
    (collected setup count).length = count := by
  simp [collected, inside]

/-- Each transport adds its operations to those collected. -/
theorem collected_succ {count : Nat} {spec : TransportSpec}
    (here : setup.transports[count]? = some spec) :
    collected setup (count + 1) =
      collected setup count ++ [some { authz := spec.authorizeConfig }] := by
  simp [collected, List.take_add_one, here]

/-- The start goes through the transports in order. -/
def Ordered (setup : Setup) (lifecycle : Lifecycle) : Prop :=
  match lifecycle.startup with
  | .authorizing => lifecycle.tracked = []
  | .starting index stage ops => index < setup.transports.length ∧ ops = collected setup index ∧
      lifecycle.tracked = startedCalls index ++ .startTransport index :: stage.calls index
  | _ => True

/-- Only the phase of the start and the tracked calls count. -/
theorem Ordered.frame (holds : lifecycle.Ordered setup) (startup : after.startup = lifecycle.startup)
    (tracked : ¬lifecycle.startup.Settled → after.tracked = lifecycle.tracked) :
    after.Ordered setup := by
  unfold Ordered at holds ⊢
  rw [startup]
  cases phase : lifecycle.startup with
  | authorizing =>
      rw [phase] at holds tracked
      exact (tracked id).trans holds
  | starting index stage ops =>
      rw [phase] at holds tracked
      exact ⟨holds.1, holds.2.1, (tracked id).trans holds.2.2⟩
  | _ => trivial

/-- A transport is run after it was started. -/
theorem runTransport_ordered {index : Nat} (bound : index < setup.transports.length)
    (made : lifecycle.tracked = startedCalls index ++ [.startTransport index]) :
    (lifecycle.runTransport index (collected setup index)).Ordered setup := by
  refine ⟨bound, rfl, ?_⟩
  have run : (lifecycle.runTransport index (collected setup index)).tracked =
      lifecycle.tracked ++ [.runTransport index] := tracked_called rfl
  rw [run, made, List.append_assoc]
  rfl

/-- A transport is run at once, or it waits for its own authorizer. -/
theorem startTransport2_ordered {index : Nat} (spec : TransportSpec)
    (bound : index < setup.transports.length)
    (made : lifecycle.tracked = startedCalls index ++ [.startTransport index]) :
    (lifecycle.startTransport2 index spec (collected setup index)).Ordered setup := by
  unfold startTransport2
  split
  · refine ⟨bound, rfl, ?_⟩
    exact (tracked_ignored rfl).trans made
  · exact runTransport_ordered bound made

/-- The next transport is started, or all of them were. -/
theorem startTransport_ordered {count : Nat} (inside : count ≤ setup.transports.length)
    (made : lifecycle.tracked = startedCalls count) :
    (lifecycle.startTransport setup (collected setup count)).Ordered setup := by
  unfold startTransport
  rw [collected_length inside]
  cases here : setup.transports[count]? with
  | none => trivial
  | some spec =>
      have bound : count < setup.transports.length := (List.getElem?_eq_some_iff.mp here).1
      have called : (lifecycle.call (.startTransport count)).tracked =
          startedCalls count ++ [.startTransport count] := by
        rw [tracked_called rfl, made]
      dsimp only
      split
      · exact ⟨bound, rfl, called⟩
      · exact startTransport2_ordered spec bound called

/-- A transport that is ready lets the next one start. -/
theorem transportReady_ordered {index : Nat} {spec : TransportSpec}
    (bound : index < setup.transports.length) (here : setup.transports[index]? = some spec)
    (made : lifecycle.tracked =
      startedCalls index ++ .startTransport index :: StartStage.running.calls index)
    (err : Option JsString) :
    (lifecycle.transportReady setup index spec (collected setup index) err).Ordered setup := by
  cases err with
  | some err =>
      unfold transportReady
      dsimp only
      split
      · refine ⟨bound, rfl, ?_⟩
        have warned : (lifecycle.call (.warning err)).tracked = lifecycle.tracked :=
          tracked_ignored rfl
        have closing : ((lifecycle.call (.warning err)).call (.closeTransportAuthz index)).tracked =
            lifecycle.tracked ++ [.closeTransportAuthz index] := by
          rw [tracked_called rfl, warned]
        exact closing.trans (by rw [made]; simp [StartStage.calls])
      · trivial
  | none =>
      have next : (lifecycle.call (.transportReady index)).tracked = startedCalls (index + 1) := by
        rw [tracked_ignored rfl, startedCalls_succ, made]
        simp [StartStage.calls]
      have moved := startTransport_ordered bound next
      rw [collected_succ here] at moved
      exact moved

/-- Each event of the start keeps the order. -/
theorem start_ordered (holds : lifecycle.Ordered setup) {event : StartEvent}
    (started : lifecycle.start setup event = some after) : after.Ordered setup := by
  unfold start at started
  split at started
  · next index stage ops phase =>
      obtain ⟨spec, here, started⟩ := Option.bind_eq_some_iff.mp started
      rw [Ordered, phase] at holds
      obtain ⟨bound, rfl, made⟩ := holds
      split at started
      · obtain rfl := Option.some.inj started
        exact startTransport2_ordered spec bound made
      · obtain rfl := Option.some.inj started
        exact runTransport_ordered bound made
      · obtain rfl := Option.some.inj started
        trivial
      · obtain rfl := Option.some.inj started
        exact transportReady_ordered bound here made _
      · obtain rfl := Option.some.inj started
        trivial
      · cases started
  · cases started

end Lifecycle

namespace Server

variable {runtime : Runtime} {setup : Setup} {server after : Server}

/-- The end of the shutdown makes no tracked call. -/
theorem check_tracked (server : Server) :
    server.check.lifecycle.tracked = server.lifecycle.tracked := by
  rcases check_cases server with ⟨same, _⟩ | ⟨cb, _, _, _, finished⟩
  · rw [same]
  · rw [finished]
    have waiters : ((server.lifecycle.waiters.map fun waiter => ServerCall.calledBack waiter none).filter
        ServerCall.tracked) = [] := by
      simp [List.filter_eq_nil_iff, ServerCall.tracked]
    cases cb <;>
      simp [Lifecycle.tracked, Lifecycle.finish, List.filter_append, waiters, ServerCall.tracked]

/-- An event of a connection makes no tracked call. -/
theorem serve_tracked (server : Server) (keyed : KeyedService) :
    (server.serve keyed).lifecycle.tracked = server.lifecycle.tracked := by
  rcases serve_cases server keyed with ⟨quiet, _⟩ | ⟨_, _, emptied⟩
  · rw [quiet]
  · rw [emptied, check_tracked]
    rfl

/-- A call of `close` makes a tracked call only when the server is ready. -/
theorem close_tracked (called : CloseCalled server after) (unready : server.lifecycle.ready = false) :
    after.lifecycle.tracked = server.lifecycle.tracked := by
  cases called with
  | answered =>
      rw [Lifecycle.tracked_ignored rfl]
      exact Lifecycle.tracked_quiet rfl (by simp [ServerCall.tracked])
  | waits => exact Lifecycle.tracked_quiet rfl (by simp [ServerCall.tracked])
  | begins _ ready => exact absurd (unready.symm.trans ready) Bool.false_ne_true
  | stored => exact Lifecycle.tracked_quiet rfl (by simp [ServerCall.tracked])

/-- The shutdown leaves the outcome of the start alone. -/
structure SameStart (server after : Server) : Prop where
  startup : after.lifecycle.startup = server.lifecycle.startup
  ready : after.lifecycle.ready = server.lifecycle.ready

/-- The test for the end of the shutdown changes nothing about the start. -/
theorem check_start (server : Server) : server.SameStart server.check := by
  obtain ⟨_, _, _, same⟩ := check_lifecycle server
  constructor <;> rw [same]

/-- An event of a connection changes nothing about the start. -/
theorem serve_start (server : Server) (keyed : KeyedService) :
    server.SameStart (server.serve keyed) := by
  obtain ⟨_, _, _, _, same⟩ := serve_lifecycle server keyed
  constructor <;> rw [same]

/-- The first part of the shutdown changes nothing about the start. -/
theorem cont_start (server : Server) (cb : Option Callback) :
    server.SameStart (server.cont runtime cb) := by
  let keyed := { server.keyed with service := server.keyed.service.destroyAll runtime }
  have served := serve_start (server.contd cb) keyed
  have contd : server.SameStart (server.contd cb) := by
    unfold contd
    dsimp only
    split
    · have checked := check_start { server with
        lifecycle := { server.lifecycle.closeAll cb with
          listening := true, shutdown := .finishing cb [] } }
      exact ⟨checked.startup, checked.ready⟩
    · exact ⟨rfl, rfl⟩
  rw [cont_eq]
  exact ⟨served.startup.trans contd.startup, served.ready.trans contd.ready⟩

/-- A transport that has closed changes nothing about the start. -/
theorem transportClosed_start {index : Nat} {err : Option JsString}
    (closed : TransportClosed server index err after) : server.SameStart after := by
  cases closed with
  | @finished cb stages last more =>
      have checked := check_start { server with lifecycle := { server.lifecycle with
        shutdown := .finishing cb (stages.set index last)
        calls := server.lifecycle.calls ++ more } }
      exact ⟨checked.startup, checked.ready⟩
  | _ => exact ⟨rfl, rfl⟩

/-- Each step leaves the transports in order. -/
theorem ordered_step (holds : server.lifecycle.Ordered setup) (phased : server.Phased)
    {event : Event} (stepped : server.step runtime setup event = some after) :
    after.lifecycle.Ordered setup := by
  have late : ∀ {after : Server}, server.lifecycle.shutdown ≠ .idle →
      after.lifecycle.startup = server.lifecycle.startup → after.lifecycle.Ordered setup := by
    intro after busy startup
    obtain ⟨err, done⟩ := phased.begun busy
    exact holds.frame startup fun starting => absurd (done ▸ trivial) starting
  have cases := step_cases stepped
  cases event with
  | start event =>
      obtain ⟨lifecycle, ran, rfl⟩ := Option.map_eq_some_iff.mp stepped
      exact Lifecycle.start_ordered holds ran
  | authorized err closes =>
      simp only [step] at stepped
      split at stepped
      · next phase =>
          obtain rfl := Option.some.inj stepped
          cases err with
          | none =>
              rw [Lifecycle.Ordered, phase] at holds
              exact Lifecycle.startTransport_ordered (Nat.zero_le _) holds
          | some err => trivial
      · cases stepped
  | authorization =>
      cases cases
      exact holds
  | keyed =>
      cases cases
      exact holds.frame (serve_start _ _).startup fun _ => serve_tracked _ _
  | tick =>
      cases cases with
      | ready phase settles => cases settles <;> trivial
      | failed phase settles => cases settles <;> trivial
  | close =>
      cases cases with
      | close called =>
          refine holds.frame (close_startup called) fun starting => close_tracked called ?_
          exact (phased.unsettled starting).1
  | stoppedWatching =>
      cases cases with
      | stoppedWatching phase => exact late (by simp [phase]) rfl
  | authzClosed =>
      cases cases with
      | authzClosed phase => exact late (by simp [phase]) (cont_start _ _).startup
      | authzFailed phase => exact late (by simp [phase]) rfl
  | cont =>
      cases cases with
      | cont phase => exact late (by simp [phase]) (cont_start _ _).startup
  | transportClosed =>
      cases cases with
      | transportClosed closed =>
          refine late ?_ (transportClosed_start closed).startup
          cases closed <;> simp [*]
  | cont2 =>
      cases cases with
      | cont2 phase => exact late (by simp [phase]) (check_start _).startup

/-- In every reachable state the transports were started in order. -/
theorem ordered_of_reachable (reached : (system runtime setup).Reachable server) :
    server.lifecycle.Ordered setup := by
  induction reached with
  | initial => rfl
  | step reached _ stepped holds => exact ordered_step holds (phased_of_reachable reached) stepped

end Server
end Centro
