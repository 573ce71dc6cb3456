import Centro.Proof.Server.Close

namespace Centro

open Library

/-- No close has failed so far. -/
def Shutdown.Clean : Shutdown → Prop
  | .authzFailed _ | .transportsFailed _ _ => False
  | .closingTransports _ stages | .finishing _ stages =>
      ∀ stage ∈ stages, ∀ err, stage ≠ .wrapped (some err)
  | _ => True

/-- A start that goes on has not failed. -/
theorem Startup.inTime {startup : Startup} (starting : ¬startup.Settled) (err : JsString) :
    startup ≠ .failed err ∧ startup ≠ .done (some err) := by
  constructor
  · exact fun failed => starting (failed ▸ trivial)
  · exact fun failed => starting (failed ▸ trivial)

namespace Server

variable {runtime : Runtime} {setup : Setup} {server after : Server}

/-- No close fails. The default authorizer does not fail when `close` is called before its `error`
event ends, and the first call of `close` does not come after a failed start. -/
def ClosesCleanly (server : Server) : Event → Prop
  | .authzClosed err | .transportClosed _ err => err = none
  | .authorized (some _) closes => closes = 0 ∧ server.closing = false
  | .close => server.closing = false → ∀ err, server.lifecycle.startup ≠ .failed err ∧
      server.lifecycle.startup ≠ .done (some err)
  | _ => True

/-- A call of `close` waits for the start, or it has begun the shutdown. -/
structure Controlled (server : Server) : Prop where
  ready : server.lifecycle.startup = .done none → server.lifecycle.ready = true
  waiting : server.closing = true → server.lifecycle.shutdown = .idle →
    ¬server.lifecycle.startup.Settled ∧ server.lifecycle.closeCb.isSome = true
  closeCb : server.lifecycle.closeCb.isSome = true → ¬server.lifecycle.startup.Settled
  clean : server.lifecycle.shutdown.Clean

namespace Controlled

/-- Only these variables count. -/
theorem frame (holds : server.Controlled) (ready : after.lifecycle.ready = server.lifecycle.ready)
    (startup : after.lifecycle.startup = server.lifecycle.startup)
    (shutdown : after.lifecycle.shutdown = server.lifecycle.shutdown)
    (closeCb : after.lifecycle.closeCb = server.lifecycle.closeCb)
    (closing : after.closing = server.closing) : after.Controlled where
  ready := by
    rw [ready, startup]
    exact holds.ready
  waiting := by
    rw [closing, shutdown, startup, closeCb]
    exact holds.waiting
  closeCb := by
    rw [startup, closeCb]
    exact holds.closeCb
  clean := shutdown ▸ holds.clean

/-- A shutdown that has begun goes on without an error. -/
theorem advance (holds : server.Controlled) (ready : after.lifecycle.ready = server.lifecycle.ready)
    (startup : after.lifecycle.startup = server.lifecycle.startup)
    (closeCb : after.lifecycle.closeCb = server.lifecycle.closeCb)
    (busy : after.lifecycle.shutdown ≠ .idle) (clean : after.lifecycle.shutdown.Clean) :
    after.Controlled where
  ready := by
    rw [ready, startup]
    exact holds.ready
  waiting := fun _ idle => absurd idle busy
  closeCb := by
    rw [startup, closeCb]
    exact holds.closeCb
  clean := clean

/-- The start stays under control. -/
theorem starts (holds : server.Controlled) {lifecycle : Lifecycle}
    (starts : server.lifecycle.Starts lifecycle) : Controlled { server with lifecycle } := by
  have later := starts.later
  obtain ⟨startup, _, _, _, rfl⟩ := starts.shape
  constructor
  · intro done
    have done : startup = .done none := done
    rw [done] at later
    exact absurd trivial later
  · exact fun closing idle => ⟨later, (holds.waiting closing idle).2⟩
  · exact fun _ => later
  · exact holds.clean

/-- The test for the end of the shutdown keeps control. -/
theorem check (holds : server.Controlled) : server.check.Controlled := by
  rcases check_cases server with ⟨same, _⟩ | ⟨cb, stages, phase, _, finished⟩
  · rw [same]
    exact holds
  · rw [finished]
    exact holds.frame rfl rfl rfl rfl rfl

/-- An event of a connection keeps control. -/
theorem serve (holds : server.Controlled) {keyed : KeyedService}
    (closing : keyed.service.closing = server.keyed.service.closing) :
    (server.serve keyed).Controlled := by
  have served : Controlled { server with keyed } := holds.frame rfl rfl rfl rfl closing
  rcases serve_cases server keyed with ⟨quiet, _⟩ | ⟨_, _, emptied⟩
  · rw [quiet]
    exact served
  · rw [emptied]
    apply check
    exact served.frame rfl rfl rfl rfl rfl

/-- A call of `close` that is not answered waits for the start or begins the shutdown. -/
theorem close (holds : server.Controlled)
    (inTime : server.closing = false → ∀ err, server.lifecycle.startup ≠ .failed err ∧
      server.lifecycle.startup ≠ .done (some err))
    (called : CloseCalled server after) : after.Controlled := by
  cases called with
  | answered => exact holds.frame rfl rfl rfl rfl rfl
  | waits => exact holds.frame rfl rfl rfl rfl rfl
  | begins staying ready begins =>
      rcases begins with rfl | rfl
      · exact holds.advance rfl rfl rfl (by simp) trivial
      · exact holds.advance rfl rfl rfl (by simp) trivial
  | stored staying unready =>
      have unsettled : ¬server.lifecycle.startup.Settled := by
        cases phase : server.lifecycle.startup with
        | authorizing => exact id
        | failed err => exact absurd phase (inTime staying err).1
        | starting => exact id
        | started => exact id
        | done err =>
            cases err with
            | none => exact absurd (unready.symm.trans (holds.ready phase)) Bool.false_ne_true
            | some err => exact absurd phase (inTime staying err).2
      exact ⟨holds.ready, fun _ _ => ⟨unsettled, rfl⟩, fun _ => unsettled, holds.clean⟩

/-- The listeners for `error` call `close` before the start is settled. -/
theorem error (holds : server.Controlled) (starting : ¬server.lifecycle.startup.Settled)
    (err : JsString) (closes : Nat) : (server.error setup err closes).Controlled := by
  let still : Server → Prop := fun called => called.Controlled ∧ ¬called.lifecycle.startup.Settled
  have kept : still (server.error setup err closes) := by
    apply error_invariant err closes
    · exact ⟨holds.frame rfl rfl rfl rfl rfl, starting⟩
    · rintro before after ⟨holds, starting⟩ called
      refine ⟨holds.close (fun _ => Startup.inTime starting) called, ?_⟩
      rw [close_startup called]
      exact starting
  exact kept.1

/-- The last callback of the start takes the waiting call of `close` along. -/
theorem settle (holds : server.Controlled) (idle : server.lifecycle.shutdown = .idle)
    {err : Option JsString} (settles : Settles server err after) : after.Controlled := by
  cases settles with
  | begins asked begins =>
      refine ⟨fun done => ?_, fun _ idle => ?_, fun none => ?_, ?_⟩
      · cases done
        rfl
      · rcases begins with rfl | rfl <;> cases idle
      · cases none
      · rcases begins with rfl | rfl <;> trivial
  | ready free =>
      have alone : server.lifecycle.closeCb.isSome = false := by rw [free]; rfl
      refine ⟨fun _ => rfl, fun closing _ => ?_, fun some => ?_, holds.clean⟩
      · have some := (holds.waiting closing idle).2
        exact absurd (alone.symm.trans some) Bool.false_ne_true
      · exact absurd (alone.symm.trans some) Bool.false_ne_true

/-- The second part of the shutdown keeps control. -/
theorem cont2 (holds : server.Controlled) (cb : Option Callback) {stages : List CloseStage}
    (clean : ∀ stage ∈ stages, ∀ err, stage ≠ .wrapped (some err)) :
    (server.cont2 cb stages).Controlled := by
  apply check
  exact holds.advance rfl rfl rfl (by simp) clean

/-- The first part of the shutdown keeps control. -/
theorem cont (holds : server.Controlled) (cb : Option Callback) :
    (server.cont runtime cb).Controlled := by
  let closing : Server :=
    { server with lifecycle := { server.lifecycle.closeAll cb with listening := true } }
  have begun : closing.Controlled := by
    refine holds.advance rfl rfl rfl (by simp [closing, Lifecycle.closeAll]) ?_
    intro stage member
    obtain ⟨ops, _, rfl⟩ := List.mem_map.mp member
    exact fun err => (Lifecycle.firstStage_cases ops).2 (some err)
  rw [cont_eq]
  apply serve
  · unfold contd
    split
    · exact begun.cont2 cb (by simp)
    · exact begun
  · rw [contd_keyed]
    exact Service.destroyAll_closing

/-- A transport that has closed keeps control. -/
theorem transportClosed {index : Nat} (holds : server.Controlled)
    (closed : TransportClosed server index none after) : after.Controlled := by
  have remains : ∀ {stages last failure more}, Advances index none stages last failure more →
      (∀ stage ∈ stages, ∀ err, stage ≠ .wrapped (some err)) →
      ∀ stage ∈ stages.set index last, ∀ err, stage ≠ .wrapped (some err) := by
    intro stages last failure more advances all stage member
    rcases List.mem_or_eq_of_mem_set member with old | rfl
    · exact all stage old
    · exact (advances.clean rfl all).2
  have clean := holds.clean
  cases closed with
  | failed phase advances =>
      rw [phase] at clean
      cases (advances.clean rfl clean).1
  | @finished cb stages last more phase advances =>
      rw [phase] at clean
      have later := remains advances clean
      refine cont2 ?_ cb later
      exact holds.advance rfl rfl rfl (by simp) later
  | waiting phase advances =>
      rw [phase] at clean
      exact holds.advance rfl rfl rfl (by simp) (remains advances clean)
  | ignored phase =>
      rw [phase] at clean
      exact clean.elim
  | late phase advances =>
      rw [phase] at clean
      exact holds.advance rfl rfl rfl (by simp) (remains advances clean)

/-- Each step under the condition keeps the calls of `close` under control. -/
theorem step (holds : server.Controlled) (phased : server.Phased) {event : Event}
    (meets : server.ClosesCleanly event) (stepped : Stepped runtime setup server event after) :
    after.Controlled := by
  have clean := holds.clean
  cases stepped with
  | authorization => exact holds.frame rfl rfl rfl rfl rfl
  | keyed ran other => exact holds.serve (KeyedService.step_closing ran other)
  | authorized starts => exact holds.starts starts
  | refused =>
      obtain ⟨rfl, staying⟩ := meets
      constructor
      · intro done
        cases done
      · exact fun closing => absurd (staying.symm.trans closing) Bool.false_ne_true
      · exact fun some => absurd (staying.symm.trans (phased.closeCb some)) Bool.false_ne_true
      · exact clean
  | start starts => exact holds.starts starts
  | ready phase settles =>
      exact holds.settle (phased.unsettled (by rw [phase]; exact id)).2 settles
  | @failed err closes after phase settles =>
      have starting : ¬server.lifecycle.startup.Settled := by rw [phase]; exact id
      obtain ⟨_, _, idle⟩ := phased.error_unsettled starting err closes
      exact (holds.error starting err closes).settle idle settles
  | close called => exact holds.close meets called
  | stoppedWatching => exact holds.advance rfl rfl rfl (by simp) trivial
  | @authzClosed cb phase =>
      have noted : (server.authzClosed none).Controlled := holds.frame rfl rfl rfl rfl rfl
      exact noted.cont cb
  | authzFailed => cases meets
  | cont phase =>
      rw [phase] at clean
      exact clean.elim
  | @transportClosed index err after closed =>
      obtain rfl : err = none := meets
      exact holds.transportClosed closed
  | cont2 phase =>
      rw [phase] at clean
      exact clean.elim

theorem initial : Controlled {} where
  ready := fun done => by cases done
  waiting := fun closing => Bool.noConfusion closing
  closeCb := fun some => Bool.noConfusion some
  clean := trivial

end Controlled

/-- The server is under control in every run with orderly closes. -/
theorem controlled_of_reachable
    (reached : (system runtime setup).ReachableUnder ClosesCleanly server) :
    server.Controlled := by
  induction reached with
  | initial => exact .initial
  | step reached meets stepped holds =>
      exact holds.step (phased_of_reachable reached.reachable) meets (step_cases stepped)

end Server
end Centro
