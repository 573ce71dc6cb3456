import Centro.Proof.Connection.Loops
import Centro.Proof.Server.Control

namespace Centro

open Library

namespace Server

variable {runtime : Runtime} {setup : Setup} {server after : Server}

/-- A shutdown that the application asked for waits for transports and connections. -/
structure Draining (server : Server) : Prop where
  outstanding : ∀ cb stages, server.lifecycle.shutdown = .closingTransports cb stages →
    ∃ stage ∈ stages, stage ≠ .calledBack
  finishing : server.lifecycle.closed = true →
    ∃ cb stages, server.lifecycle.shutdown = .finishing cb stages
  listening : server.closing = true → server.lifecycle.shutdown.Contd →
    server.lifecycle.closed = false → server.connids.size ≠ 0 → server.lifecycle.listening = true
  gone : server.closing = true → server.lifecycle.closed = true → server.connids.size = 0

/-- After a call of `check` the shutdown has not missed its end. -/
structure Checked (server : Server) : Prop extends Draining server where
  unclosed : server.closing = true → server.lifecycle.closed = false →
    ∀ cb stages, server.lifecycle.shutdown = .finishing cb stages → server.connids.size ≠ 0

/-- Between two events the shutdown destroys all connections. -/
structure Drained (server : Server) : Prop extends Checked server where
  condemned : server.closing = true → server.lifecycle.shutdown.Contd →
    ∀ connection ∈ server.keyed.service.connections, connection.Condemned

/-- The event `close` waits for the end of the shutdown. -/
theorem Draining.idle_unclosed (holds : server.Draining)
    (waits : ¬server.lifecycle.shutdown.Contd) : server.lifecycle.closed = false := by
  by_contra closed
  obtain ⟨cb, stages, phase⟩ := holds.finishing (by simpa using closed)
  rw [phase] at waits
  exact waits trivial

/-- The shutdown ends as soon as it can. -/
theorem Draining.check (holds : server.Draining) : server.check.Checked := by
  rcases check_cases server with ⟨same, some⟩ | ⟨cb, stages, phase, none, finished⟩
  · rw [same]
    exact ⟨holds, fun _ _ => some⟩
  · rw [finished]
    exact {
      outstanding := holds.outstanding
      finishing := fun _ => ⟨cb, stages, phase⟩
      listening := fun _ _ unclosed => Bool.noConfusion unclosed
      gone := fun _ _ => none
      unclosed := fun _ unclosed => Bool.noConfusion unclosed }

/-- The last id goes with the event `empty`, and `check` listens to it. -/
theorem Checked.serve (holds : server.Checked) {keyed : KeyedService}
    (closing : keyed.service.closing = server.closing)
    (drains : server.closing = true →
      server.keyed.service.shared.Drains keyed.service.shared) :
    (server.serve keyed).Checked := by
  have gone : server.closing = true → server.lifecycle.closed = true →
      keyed.service.shared.connids.size = 0 :=
    fun begun closed => (drains begun).stays (holds.gone begun closed)
  rcases serve_cases server keyed with ⟨quiet, silent⟩ | ⟨listening, emitted, emptied⟩
  · rw [quiet]
    refine ⟨⟨holds.outstanding, holds.finishing, ?_, ?_⟩, ?_⟩
    · intro begun contd unclosed some
      have begun : server.closing = true := closing.symm.trans begun
      exact holds.listening begun contd unclosed fun none => some ((drains begun).stays none)
    · exact fun begun => gone (closing.symm.trans begun)
    · intro begun unclosed cb stages phase none
      have begun : server.closing = true := closing.symm.trans begun
      have phase : server.lifecycle.shutdown = .finishing cb stages := phase
      have before := holds.unclosed begun unclosed cb stages phase
      have contd : server.lifecycle.shutdown.Contd := by
        rw [phase]
        trivial
      have more := (drains begun).emptied
      rw [if_pos ⟨before, none⟩] at more
      exact silent (holds.listening begun contd unclosed before) (by omega)
  · rw [emptied]
    apply Draining.check
    refine ⟨holds.outstanding, holds.finishing, ?_, ?_⟩
    · intro begun _ _ some
      have more := (drains (closing.symm.trans begun)).emptied
      split at more
      · next both => exact absurd both.2 some
      · omega
    · exact fun begun => gone (closing.symm.trans begun)

/-- The transports are to be closed, or there are none, and `check` listens. -/
theorem contd_checked (unclosed : server.lifecycle.closed = false) (cb : Option Callback) :
    (server.contd cb).Checked := by
  have early : server.lifecycle.closed ≠ true := by simp [unclosed]
  unfold contd
  dsimp only
  split
  · apply Draining.check
    refine ⟨fun _ _ phase => ?_, fun closed => absurd closed early, fun _ _ _ _ => rfl,
      fun _ closed => absurd closed early⟩
    cases phase
  · next some =>
      refine ⟨⟨?_, fun closed => absurd closed early, fun _ _ _ _ => rfl,
        fun _ closed => absurd closed early⟩, fun _ _ _ _ phase => by cases phase⟩
      intro _ stages phase
      obtain rfl : server.lifecycle.transportOps.map Lifecycle.firstStage = stages := by
        cases phase
        rfl
      obtain ⟨ops, member⟩ := List.exists_mem_of_ne_nil server.lifecycle.transportOps
        (by simpa using some)
      exact ⟨_, List.mem_map_of_mem member, (Lifecycle.firstStage_cases ops).1⟩

/-- A call of `close` does not emit the event. -/
theorem close_closed (called : CloseCalled server after) :
    after.lifecycle.closed = server.lifecycle.closed := by
  cases called <;> rfl

/-- An error does not emit the event `close`. -/
theorem error_closed (setup : Setup) (server : Server) (err : JsString) (closes : Nat) :
    (server.error setup err closes).lifecycle.closed = server.lifecycle.closed := by
  let same : Server → Prop := fun called => called.lifecycle.closed = server.lifecycle.closed
  have kept : same (server.error setup err closes) := by
    apply error_invariant err closes
    · rfl
    · exact fun _ _ same called => (close_closed called).trans same
  exact kept

/-- Under the condition the first call of `close` finds no shutdown. -/
theorem Controlled.idle (holds : server.Controlled) (phased : server.Phased)
    (staying : server.closing = false)
    (inTime : ∀ err, server.lifecycle.startup ≠ .done (some err)) :
    server.lifecycle.shutdown = .idle := by
  by_contra busy
  obtain ⟨err, done⟩ := phased.begun busy
  cases err with
  | none =>
      have begun := phased.owned busy (holds.ready done)
      exact absurd (staying.symm.trans begun) Bool.false_ne_true
  | some err => exact inTime err done

namespace Drained

/-- Only these variables count. -/
theorem frame (holds : server.Drained) (closed : after.lifecycle.closed = server.lifecycle.closed)
    (listening : after.lifecycle.listening = server.lifecycle.listening)
    (shutdown : after.lifecycle.shutdown = server.lifecycle.shutdown)
    (keyed : after.keyed = server.keyed) : after.Drained := by
  have closing : after.closing = server.closing := congrArg (·.service.closing) keyed
  have connids : after.connids = server.connids := congrArg (·.service.shared.connids) keyed
  refine ⟨⟨⟨?_, ?_, ?_, ?_⟩, ?_⟩, ?_⟩
  · rw [shutdown]
    exact holds.outstanding
  · rw [closed, shutdown]
    exact holds.finishing
  · rw [closing, shutdown, closed, connids, listening]
    exact holds.listening
  · rw [closing, closed, connids]
    exact holds.gone
  · rw [closing, closed, shutdown, connids]
    exact holds.unclosed
  · rw [closing, shutdown, keyed]
    exact holds.condemned

/-- Nothing has to be drained before the default authorizer is closed. -/
theorem early (waits : ¬after.lifecycle.shutdown.Contd) (unclosed : after.lifecycle.closed = false) :
    after.Drained := by
  have other : ∀ {shutdown : Shutdown}, after.lifecycle.shutdown = shutdown → ¬shutdown.Contd := by
    rintro _ rfl
    exact waits
  refine ⟨⟨⟨?_, ?_, ?_, ?_⟩, ?_⟩, ?_⟩
  · exact fun _ _ phase => absurd trivial (other phase)
  · exact fun closed => absurd (unclosed.symm.trans closed) Bool.false_ne_true
  · exact fun _ contd => absurd contd waits
  · exact fun _ closed => absurd (unclosed.symm.trans closed) Bool.false_ne_true
  · exact fun _ _ _ _ phase => absurd trivial (other phase)
  · exact fun _ contd => absurd contd waits

/-- The start keeps the server drained. -/
theorem starts (holds : server.Drained) {lifecycle : Lifecycle}
    (starts : server.lifecycle.Starts lifecycle) : Drained { server with lifecycle } := by
  obtain ⟨_, _, _, _, rfl⟩ := starts.shape
  exact holds.frame rfl rfl rfl rfl

/-- An event of a connection keeps the server drained. -/
theorem serve (holds : server.Drained) (sound : server.keyed.service.Sound)
    {event : KeyedService.Event} {keyed : KeyedService}
    (ran : server.keyed.step runtime event = some keyed) (other : event ≠ .service .beginClosing) :
    (server.serve keyed).Drained := by
  have closing := KeyedService.step_closing ran other
  refine ⟨holds.toChecked.serve closing ?_, ?_⟩
  · intro begun
    rcases KeyedService.step_service ran with same | ⟨move, moved, _⟩
    · rw [same]
      exact .refl _
    · exact sound.drains moved fun _ _ _ _ _ _ _ => begun
  · obtain ⟨_, _, _, _, lifecycle⟩ := serve_lifecycle server keyed
    rw [Server.closing, serve_keyed, lifecycle]
    intro begun contd
    have begun : server.closing = true := closing.symm.trans begun
    have before := holds.condemned begun contd
    rcases KeyedService.step_service ran with same | ⟨move, moved, _⟩
    · rw [same]
      exact before
    · exact sound.condemned_step (fun _ _ _ _ _ _ _ => begun) before moved

/-- The continuation that starts to close the transports destroys all connections. -/
theorem cont (holds : server.Drained) (waits : ¬server.lifecycle.shutdown.Contd)
    (sound : server.keyed.service.Sound) (cb : Option Callback) :
    (server.cont runtime cb).Drained := by
  have last : server.keyed.service.step runtime .destroyAll =
      some (server.keyed.service.destroyAll runtime) := rfl
  refine ⟨?_, fun _ _ => ?_⟩
  · rw [cont_eq]
    apply (contd_checked (holds.idle_unclosed waits) cb).serve
    · rw [closing, contd_keyed]
      exact Service.destroyAll_closing
    · intro _
      rw [contd_keyed]
      exact sound.drains last (by simp)
  · rw [cont_keyed]
    exact sound.destroyAll_condemns

/-- The first call of `close` begins the shutdown or waits for the start. -/
theorem close (holds : server.Drained) (controlled : server.Controlled) (phased : server.Phased)
    (inTime : server.closing = false → ∀ err, server.lifecycle.startup ≠ .done (some err))
    (called : CloseCalled server after) : after.Drained := by
  have first : server.closing = false → ¬server.lifecycle.shutdown.Contd := by
    intro staying
    rw [controlled.idle phased staying (inTime staying)]
    exact id
  cases called with
  | answered => exact holds.frame rfl rfl rfl rfl
  | waits => exact holds.frame rfl rfl rfl rfl
  | begins staying _ begins =>
      refine early ?_ (holds.idle_unclosed (first staying))
      rcases begins with rfl | rfl <;> exact id
  | stored staying => exact early (first staying) (holds.idle_unclosed (first staying))

/-- What settles the start keeps the server drained. -/
theorem settle (waits : ¬server.lifecycle.shutdown.Contd)
    (unclosed : server.lifecycle.closed = false) {err : Option JsString}
    (settles : Settles server err after) : after.Drained := by
  cases settles with
  | begins _ begins =>
      refine early ?_ unclosed
      rcases begins with rfl | rfl <;> exact id
  | ready => exact early waits unclosed

/-- A transport that is not the last one leaves another one to wait for. -/
theorem transportClosed {index : Nat} (holds : server.Drained)
    (clean : server.lifecycle.shutdown.Clean) (closed : TransportClosed server index none after) :
    after.Drained := by
  have contd : ∀ {shutdown : Shutdown}, server.lifecycle.shutdown = shutdown → shutdown.Contd →
      server.lifecycle.shutdown.Contd := by
    rintro _ rfl
    exact id
  cases closed with
  | failed phase advances =>
      rw [phase] at clean
      cases (advances.clean rfl clean).1
  | @finished cb stages last more phase advances =>
      have begun := contd phase trivial
      have unclosed : server.lifecycle.closed ≠ true := by
        intro closed
        obtain ⟨_, _, other⟩ := holds.finishing closed
        rw [phase] at other
        cases other
      let next : Server := { server with lifecycle := { server.lifecycle with
        shutdown := .finishing cb (stages.set index last)
        calls := server.lifecycle.calls ++ more } }
      have draining : next.Draining :=
        ⟨fun _ _ phase => (by cases phase), fun closed => absurd closed unclosed,
          fun closing _ => holds.listening closing begun, holds.gone⟩
      refine ⟨draining.check, ?_⟩
      have keyed : next.check.keyed = server.keyed := check_keyed next
      show next.check.keyed.service.closing = true → _ →
        ∀ connection ∈ next.check.keyed.service.connections, _
      rw [keyed]
      exact fun closing _ => holds.condemned closing begun
  | waiting phase advances rest =>
      have begun := contd phase trivial
      refine ⟨⟨⟨?_, ?_, fun closing _ => holds.listening closing begun, holds.gone⟩, ?_⟩,
        fun closing _ => holds.condemned closing begun⟩
      · intro _ stages phase
        cases phase
        simpa using rest
      · intro closed
        obtain ⟨_, _, other⟩ := holds.finishing closed
        rw [phase] at other
        cases other
      · intro _ _ _ _ phase
        cases phase
  | ignored phase =>
      rw [phase] at clean
      exact clean.elim
  | late phase advances =>
      have begun := contd phase trivial
      refine ⟨⟨⟨?_, fun _ => ⟨_, _, rfl⟩, fun closing _ => holds.listening closing begun,
        holds.gone⟩, fun closing unclosed _ _ _ => holds.unclosed closing unclosed _ _ phase⟩,
        fun closing _ => holds.condemned closing begun⟩
      intro _ _ phase
      cases phase

/-- Each step under the condition lets the shutdown drain. -/
theorem step (holds : server.Drained) (controlled : server.Controlled) (phased : server.Phased)
    (sound : server.keyed.service.Sound) {event : Event} (meets : server.ClosesCleanly event)
    (stepped : Stepped runtime setup server event after) : after.Drained := by
  have clean := controlled.clean
  cases stepped with
  | authorization => exact holds.frame rfl rfl rfl rfl
  | keyed ran other => exact holds.serve sound ran other
  | authorized starts => exact holds.starts starts
  | refused =>
      obtain ⟨rfl, _⟩ := meets
      exact holds.frame rfl rfl rfl rfl
  | start starts => exact holds.starts starts
  | ready phase settles =>
      have idle := (phased.unsettled (by rw [phase]; exact id)).2
      have waits : ¬server.lifecycle.shutdown.Contd := by rw [idle]; exact id
      exact settle waits (holds.idle_unclosed waits) settles
  | @failed err closes after phase settles =>
      have starting : ¬server.lifecycle.startup.Settled := by rw [phase]; exact id
      have waits : ¬server.lifecycle.shutdown.Contd := by
        rw [(phased.unsettled starting).2]
        exact id
      obtain ⟨_, _, idle⟩ := phased.error_unsettled starting err closes
      refine settle ?_ ((error_closed setup server err closes).trans (holds.idle_unclosed waits))
        settles
      rw [idle]
      exact id
  | close called =>
      exact holds.close controlled phased (fun staying err => (meets staying err).2) called
  | stoppedWatching phase =>
      refine early id (holds.idle_unclosed ?_)
      rw [phase]
      exact id
  | @authzClosed cb phase =>
      have noted : (server.authzClosed none).Drained := holds.frame rfl rfl rfl rfl
      refine noted.cont ?_ sound cb
      show ¬server.lifecycle.shutdown.Contd
      rw [phase]
      exact id
  | authzFailed => cases meets
  | cont phase =>
      rw [phase] at clean
      exact clean.elim
  | @transportClosed index err after closed =>
      obtain rfl : err = none := meets
      exact holds.transportClosed clean closed
  | cont2 phase =>
      rw [phase] at clean
      exact clean.elim

theorem initial : Drained {} := early id rfl

end Drained

/-- The server is drained in every run with orderly closes. -/
theorem drained_of_reachable
    (reached : (system runtime setup).ReachableUnder ClosesCleanly server) : server.Drained := by
  induction reached with
  | initial => exact .initial
  | step reached meets stepped holds =>
      exact holds.step (controlled_of_reachable reached) (phased_of_reachable reached.reachable)
        (sound_of_reachable reached.reachable) meets (step_cases stepped)

end Server
end Centro
