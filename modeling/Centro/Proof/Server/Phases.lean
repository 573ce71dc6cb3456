import Centro.Proof.Connection.Closing
import Centro.Proof.Connection.RegistryRun
import Centro.Proof.Server.Steps

namespace Centro

open Library

namespace Server

variable {runtime : Runtime} {setup : Setup} {server after : Server}

/-- A call of `close` leaves the phase of the start. -/
theorem close_startup (called : CloseCalled server after) :
    after.lifecycle.startup = server.lifecycle.startup := by
  cases called <;> rfl

/-- The start and the shutdown follow each other. -/
structure Phased (server : Server) : Prop where
  ready : server.lifecycle.ready = true → server.lifecycle.startup = .done none
  begun : server.lifecycle.shutdown ≠ .idle → ∃ err, server.lifecycle.startup = .done err
  owned : server.lifecycle.shutdown ≠ .idle → server.lifecycle.ready = true → server.closing = true
  closeCb : server.lifecycle.closeCb.isSome = true → server.closing = true

namespace Phased

/-- The start stays where it is, and a shutdown begins only after it. -/
theorem frame (holds : server.Phased) (ready : after.lifecycle.ready = server.lifecycle.ready)
    (startup : after.lifecycle.startup = server.lifecycle.startup)
    (shutdown : server.lifecycle.shutdown = .idle → after.lifecycle.shutdown = .idle)
    (closeCb : after.lifecycle.closeCb = server.lifecycle.closeCb)
    (closing : server.closing = true → after.closing = true) : after.Phased where
  ready := by
    rw [ready, startup]
    exact holds.ready
  begun := by
    intro busy
    rw [startup]
    exact holds.begun fun idle => busy (shutdown idle)
  owned := by
    intro busy
    rw [ready]
    exact fun ready => closing (holds.owned (fun idle => busy (shutdown idle)) ready)
  closeCb := by
    rw [closeCb]
    exact fun some => closing (holds.closeCb some)

/-- A shutdown that has begun goes on. -/
theorem advance (holds : server.Phased) (busy : server.lifecycle.shutdown ≠ .idle)
    (ready : after.lifecycle.ready = server.lifecycle.ready)
    (startup : after.lifecycle.startup = server.lifecycle.startup)
    (closeCb : after.lifecycle.closeCb = server.lifecycle.closeCb)
    (closing : server.closing = true → after.closing = true) : after.Phased :=
  holds.frame ready startup (fun idle => absurd idle busy) closeCb closing

/-- Until the start is settled, the server is neither ready nor does it shut down. -/
theorem unsettled (holds : server.Phased) (starting : ¬server.lifecycle.startup.Settled) :
    server.lifecycle.ready = false ∧ server.lifecycle.shutdown = .idle := by
  have unfinished : ∀ err, server.lifecycle.startup ≠ .done err := by
    intro err done
    exact starting (done ▸ trivial)
  constructor
  · by_contra ready
    exact unfinished none (holds.ready (by simpa using ready))
  · by_contra busy
    obtain ⟨err, done⟩ := holds.begun busy
    exact unfinished err done

theorem check (holds : server.Phased) : server.check.Phased := by
  rcases check_cases server with ⟨same, _⟩ | ⟨cb, stages, phase, _, finished⟩
  · rw [same]
    exact holds
  · rw [finished]
    exact holds.frame rfl rfl id rfl id

/-- An event of a connection keeps the phases in order. -/
theorem serve (holds : server.Phased) {keyed : KeyedService}
    (closing : keyed.service.closing = server.keyed.service.closing) :
    (server.serve keyed).Phased := by
  have served : Phased { server with keyed } :=
    holds.frame rfl rfl id rfl fun begun => closing.trans begun
  rcases serve_cases server keyed with ⟨quiet, _⟩ | ⟨_, _, emptied⟩
  · rw [quiet]
    exact served
  · rw [emptied]
    apply check
    exact served.frame rfl rfl id rfl id

/-- A call of `close` keeps the phases in order. -/
theorem close (holds : server.Phased) (called : CloseCalled server after) : after.Phased := by
  cases called with
  | answered => exact holds.frame rfl rfl id rfl id
  | waits => exact holds.frame rfl rfl id rfl id
  | begins staying ready =>
      exact ⟨holds.ready, fun _ => ⟨none, holds.ready ready⟩, fun _ _ => rfl, fun _ => rfl⟩
  | stored => exact ⟨holds.ready, holds.begun, fun _ _ => rfl, fun _ => rfl⟩

/-- An error keeps the phases in order. -/
theorem error (holds : server.Phased) (err : JsString) (closes : Nat) :
    (server.error setup err closes).Phased := by
  apply error_invariant err closes
  · exact holds.frame rfl rfl id rfl id
  · exact fun _ _ holds called => holds.close called

/-- An error before the start is settled begins no shutdown. -/
theorem error_unsettled (holds : server.Phased) (starting : ¬server.lifecycle.startup.Settled)
    (err : JsString) (closes : Nat) :
    (server.error setup err closes).lifecycle.startup = server.lifecycle.startup ∧
      (server.error setup err closes).lifecycle.ready = false ∧
      (server.error setup err closes).lifecycle.shutdown = .idle := by
  let still : Server → Prop := fun called =>
    called.lifecycle.startup = server.lifecycle.startup ∧ called.lifecycle.ready = false ∧
      called.lifecycle.shutdown = .idle
  have kept : still (server.error setup err closes) := by
    apply error_invariant err closes
    · exact ⟨rfl, holds.unsettled starting⟩
    · rintro before _ ⟨startup, unready, idle⟩ called
      refine ⟨(close_startup called).trans startup, ?_⟩
      cases called with
      | answered => exact ⟨unready, idle⟩
      | waits => exact ⟨unready, idle⟩
      | begins _ ready => exact absurd (unready.symm.trans ready) Bool.false_ne_true
      | stored => exact ⟨unready, idle⟩
  exact kept

/-- A step of the start keeps the phases in order. -/
theorem starts (holds : server.Phased) {lifecycle : Lifecycle}
    (starts : server.lifecycle.Starts lifecycle) : Phased { server with lifecycle } := by
  obtain ⟨unready, idle⟩ := holds.unsettled starts.before
  obtain ⟨_, _, _, _, rfl⟩ := starts.shape
  constructor
  · intro ready
    exact absurd (unready.symm.trans ready) Bool.false_ne_true
  · exact fun busy => absurd idle busy
  · exact fun busy => absurd idle busy
  · exact holds.closeCb

/-- The last callback of the start makes the server ready, or it begins the shutdown. -/
theorem settle (holds : server.Phased) (idle : server.lifecycle.shutdown = .idle)
    {err : Option JsString} (settles : Settles server err after) : after.Phased := by
  cases settles with
  | begins asked =>
      refine ⟨fun success => ?_, fun _ => ⟨err, rfl⟩, fun _ success => ?_, fun none => ?_⟩
      · have success : err = none := Option.isNone_iff_eq_none.mp success
        rw [success]
      · exact holds.closeCb (asked.resolve_right fun failed =>
          failed (Option.isNone_iff_eq_none.mp success))
      · cases none
  | ready free =>
      exact ⟨fun _ => rfl, fun busy => absurd idle busy, fun busy => absurd idle busy,
        holds.closeCb⟩

/-- The second part of the shutdown keeps the phases in order. -/
theorem cont2 (holds : server.Phased) (busy : server.lifecycle.shutdown ≠ .idle)
    (cb : Option Callback) (stages : List CloseStage) : (server.cont2 cb stages).Phased := by
  apply check
  exact holds.advance busy rfl rfl rfl id

theorem cont (holds : server.Phased) (busy : server.lifecycle.shutdown ≠ .idle)
    (cb : Option Callback) : (server.cont runtime cb).Phased := by
  let closing : Server :=
    { server with lifecycle := { server.lifecycle.closeAll cb with listening := true } }
  have begun : closing.Phased := holds.advance busy rfl rfl rfl id
  rw [cont_eq]
  apply serve
  · unfold contd
    split
    · exact begun.cont2 (fun idle => by cases idle) cb []
    · exact begun
  · rw [contd_keyed]
    exact Service.destroyAll_closing

/-- A transport that has closed keeps the phases in order. -/
theorem transportClosed {index : Nat} {err : Option JsString} (holds : server.Phased)
    (closed : TransportClosed server index err after) : after.Phased := by
  cases closed with
  | failed phase => exact holds.advance (by simp [phase]) rfl rfl rfl id
  | finished phase =>
      refine cont2 ?_ (by simp) _ _
      exact holds.advance (by simp [phase]) rfl rfl rfl id
  | waiting phase => exact holds.advance (by simp [phase]) rfl rfl rfl id
  | ignored phase => exact holds.advance (by simp [phase]) rfl rfl rfl id
  | late phase => exact holds.advance (by simp [phase]) rfl rfl rfl id

/-- Each step leaves the start and the shutdown in order. -/
theorem step (holds : server.Phased) {event : Event}
    (stepped : Stepped runtime setup server event after) : after.Phased := by
  cases stepped with
  | authorization => exact holds.frame rfl rfl id rfl id
  | keyed ran other => exact holds.serve (KeyedService.step_closing ran other)
  | authorized starts => exact holds.starts starts
  | @refused err closes phase =>
      obtain ⟨_, unready, idle⟩ := holds.error_unsettled (by rw [phase]; exact id) err closes
      constructor
      · intro ready
        exact absurd (unready.symm.trans ready) Bool.false_ne_true
      · exact fun busy => absurd idle busy
      · exact fun busy => absurd idle busy
      · exact (holds.error err closes).closeCb
  | start starts => exact holds.starts starts
  | ready phase settles => exact holds.settle (holds.unsettled (by rw [phase]; exact id)).2 settles
  | @failed err closes after phase settles =>
      obtain ⟨_, _, idle⟩ := holds.error_unsettled (by rw [phase]; exact id) err closes
      exact (holds.error err closes).settle idle settles
  | close called => exact holds.close called
  | stoppedWatching phase => exact holds.advance (by simp [phase]) rfl rfl rfl id
  | authzClosed phase =>
      refine Phased.cont ?_ (by simp [Server.authzClosed, Lifecycle.call, phase]) _
      exact holds.frame rfl rfl id rfl id
  | authzFailed phase => exact holds.advance (by simp [phase]) rfl rfl rfl id
  | cont phase =>
      refine Phased.cont ?_ (by simp [phase]) _
      exact holds.frame rfl rfl id rfl id
  | transportClosed closed => exact holds.transportClosed closed
  | cont2 phase =>
      refine Phased.cont2 ?_ (by simp [phase]) _ _
      exact holds.frame rfl rfl id rfl id

theorem initial : Phased {} where
  ready := fun ready => Bool.noConfusion ready
  begun := fun busy => absurd rfl busy
  owned := fun busy => absurd rfl busy
  closeCb := fun some => Bool.noConfusion some

end Phased

/-- The phases are in order in every reachable state. -/
theorem phased_of_reachable (reached : (system runtime setup).Reachable server) : server.Phased :=
  reached.invariant .initial fun _ _ _ holds _ stepped => holds.step (step_cases stepped)

/-- A call of `close` only sets `_closing` for the connections. -/
theorem close_keyed (called : CloseCalled server after) :
    after.keyed = { server.keyed with service.closing := true } := by
  have same : server.closing = true →
      server.keyed = { server.keyed with service.closing := true } := by
    intro closing
    have closing : server.keyed.service.closing = true := closing
    rw [← closing]
  cases called with
  | answered closing => exact same closing
  | waits closing => exact same closing
  | begins => rfl
  | stored => rfl

/-- Listeners for `error` leave the connections alone or begin to close. -/
theorem error_keyed (setup : Setup) (server : Server) (err : JsString) (closes : Nat) :
    (server.error setup err closes).keyed = server.keyed ∨
      (server.error setup err closes).keyed = { server.keyed with service.closing := true } := by
  let kept : Server → Prop := fun called =>
    called.keyed = server.keyed ∨ called.keyed = { server.keyed with service.closing := true }
  have holds : kept (server.error setup err closes) := by
    apply error_invariant err closes
    · exact Or.inl rfl
    · rintro before after (same | begun) called
      · exact Or.inr ((close_keyed called).trans (by rw [same]))
      · exact Or.inr ((close_keyed called).trans (by rw [begun]))
  exact holds

/-- What settles the start leaves the connections alone. -/
theorem settle_keyed {err : Option JsString} (settles : Settles server err after) :
    after.keyed = server.keyed := by
  cases settles <;> rfl

/-- A transport that has closed leaves the connections alone. -/
theorem transportClosed_keyed {index : Nat} {err : Option JsString}
    (closed : TransportClosed server index err after) : after.keyed = server.keyed := by
  cases closed with
  | finished => rw [cont2, check_keyed]
  | _ => rfl

/-- A step leaves the connections alone, begins to close, takes their step, or destroys them. -/
theorem step_keyed {event : Event} (stepped : Stepped runtime setup server event after) :
    after.keyed = server.keyed ∨
      after.keyed = { server.keyed with service.closing := true } ∨
      (∃ move, event = .keyed move ∧ server.keyed.step runtime move = some after.keyed) ∨
      after.keyed = { server.keyed with service := server.keyed.service.destroyAll runtime } := by
  cases stepped with
  | keyed ran => exact Or.inr (Or.inr (Or.inl ⟨_, rfl, by rw [serve_keyed]; exact ran⟩))
  | refused => exact (error_keyed setup server _ _).imp_right Or.inl
  | ready phase settles => exact Or.inl (settle_keyed settles)
  | failed phase settles =>
      rw [settle_keyed settles]
      exact (error_keyed setup server _ _).imp_right Or.inl
  | close called => exact Or.inr (Or.inl (close_keyed called))
  | authzClosed => exact Or.inr (Or.inr (Or.inr (cont_keyed runtime _ _)))
  | cont => exact Or.inr (Or.inr (Or.inr (cont_keyed runtime _ _)))
  | transportClosed closed => exact Or.inl (transportClosed_keyed closed)
  | cont2 => exact Or.inl (check_keyed _)
  | _ => exact Or.inl rfl

/-- The connections of a reachable server are sound. -/
theorem sound_of_reachable (reached : (system runtime setup).Reachable server) :
    server.keyed.service.Sound := by
  have kept : ∀ before event after, before.keyed.service.Sound → True →
      (system runtime setup).step before event = some after → after.keyed.service.Sound := by
    intro before event after sound _ stepped
    rcases step_keyed (step_cases stepped) with same | begun | ⟨move, _, ran⟩ | destroyed
    · rw [same]
      exact sound
    · rw [begun]
      exact ⟨sound.registry, sound.started⟩
    · rcases KeyedService.step_service ran with same | ⟨_, moved, _⟩
      · rw [same]
        exact sound
      · exact sound.step moved
    · rw [destroyed]
      have last : before.keyed.service.step runtime .destroyAll =
          some (before.keyed.service.destroyAll runtime) := rfl
      exact sound.step last
  exact reached.invariant .initial kept

end Server
end Centro
