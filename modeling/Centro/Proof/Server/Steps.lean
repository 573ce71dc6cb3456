import Centro.Construction.Server
import Centro.Proof.Server.Starts

namespace Centro

open Library

namespace Lifecycle

variable {lifecycle : Lifecycle}

/-- A call of `close` gets the next number. -/
def noted (lifecycle : Lifecycle) : Lifecycle :=
  { lifecycle with
    callbacks := lifecycle.callbacks + 1
    calls := lifecycle.calls ++ [.closeCalled lifecycle.callbacks] }

/-- A callback is called if there is one. -/
theorem callBack_eq (lifecycle : Lifecycle) (cb : Option Callback) (err : Option JsString) :
    lifecycle.callBack cb err = { lifecycle with
      calls := lifecycle.calls ++ (cb.map fun cb => ServerCall.calledBack cb err).toList } := by
  cases cb <;> simp [callBack, call]

theorem newCallback_eq (lifecycle : Lifecycle) (passes : Bool) :
    ∃ next callbacks, lifecycle.newCallback passes = (next, { lifecycle with callbacks }) := by
  cases passes <;> exact ⟨_, _, rfl⟩

end Lifecycle

namespace Server

variable {runtime : Runtime} {setup : Setup} {server after : Server}

/-- The shutdown ends when it only waits for connections and there are none. -/
theorem check_cases (server : Server) :
    (server.check = server ∧ ∀ cb stages, server.lifecycle.shutdown = .finishing cb stages →
      server.connids.size ≠ 0) ∨
    ∃ cb stages, server.lifecycle.shutdown = .finishing cb stages ∧ server.connids.size = 0 ∧
      server.check = { server with lifecycle := server.lifecycle.finish cb } := by
  unfold check
  split
  · next cb stages phase =>
      split
      · next none => exact Or.inr ⟨cb, stages, phase, none, rfl⟩
      · next some => exact Or.inl ⟨rfl, fun _ _ _ => some⟩
  · next other => exact Or.inl ⟨rfl, fun cb stages phase => absurd phase (other cb stages)⟩

/-- The test for the end of the shutdown leaves the connections alone. -/
theorem check_keyed (server : Server) : server.check.keyed = server.keyed := by
  rcases check_cases server with ⟨same, _⟩ | ⟨_, _, _, _, finished⟩
  · rw [same]
  · rw [finished]

/-- The test for the end of the shutdown changes these variables only. -/
theorem check_lifecycle (server : Server) : ∃ closed waiters calls,
    server.check.lifecycle = { server.lifecycle with closed, waiters, calls } := by
  rcases check_cases server with ⟨same, _⟩ | ⟨_, _, _, _, finished⟩
  · rw [same]
    exact ⟨_, _, _, rfl⟩
  · rw [finished]
    exact ⟨_, _, _, rfl⟩

theorem check_listening (server : Server) :
    ({ server with lifecycle.listening := true } : Server).check =
      { server.check with lifecycle.listening := true } := by
  unfold check connids
  dsimp only
  split
  · split <;> rfl
  · rfl

/-- The connections take a step, and `check` runs if it listens for the event that they emit. -/
theorem serve_cases (server : Server) (keyed : KeyedService) :
    server.serve keyed = { server with keyed } ∧
        (server.lifecycle.listening = true → ¬server.keyed.service.shared.notices.count .empty <
          keyed.service.shared.notices.count .empty) ∨
      server.lifecycle.listening = true ∧
        server.keyed.service.shared.notices.count .empty <
          keyed.service.shared.notices.count .empty ∧
        server.serve keyed =
          ({ server with keyed, lifecycle.listening := false } : Server).check := by
  unfold serve
  dsimp only
  split
  · next emitted =>
      unfold empty
      dsimp only
      split
      · next listening => exact Or.inr ⟨listening, emitted, rfl⟩
      · next deaf => exact Or.inl ⟨rfl, fun listening => absurd listening deaf⟩
  · next silent => exact Or.inl ⟨rfl, fun _ => silent⟩

/-- An event of a connection has happened before the test. -/
theorem serve_keyed (server : Server) (keyed : KeyedService) : (server.serve keyed).keyed = keyed := by
  rcases serve_cases server keyed with ⟨quiet, _⟩ | ⟨_, _, emptied⟩
  · rw [quiet]
  · rw [emptied, check_keyed]

/-- An event of a connection changes these variables of the server only. -/
theorem serve_lifecycle (server : Server) (keyed : KeyedService) :
    ∃ closed waiters calls listening, (server.serve keyed).lifecycle =
      { server.lifecycle with closed, waiters, calls, listening } := by
  rcases serve_cases server keyed with ⟨quiet, _⟩ | ⟨_, _, emptied⟩
  · rw [quiet]
    exact ⟨_, _, _, _, rfl⟩
  · obtain ⟨closed, waiters, calls, same⟩ :=
      check_lifecycle { server with keyed, lifecycle.listening := false }
    rw [emptied, same]
    exact ⟨_, _, _, _, rfl⟩

/-- The shutdown waits for the `fsq` or for the default authorizer. -/
def Begins (cb : Option Callback) (shutdown : Shutdown) : Prop :=
  shutdown = .stopping cb ∨ shutdown = .closingAuthz cb

/-- The shutdown begins with one call. -/
theorem _close_begins (setup : Setup) (lifecycle : Lifecycle) (cb : Option Callback) :
    ∃ shutdown made, Begins cb shutdown ∧ ServerCall.plain made = true ∧
      _close setup lifecycle cb = { lifecycle with shutdown, calls := lifecycle.calls ++ [made] } := by
  unfold _close
  split
  · exact ⟨.stopping cb, .stopWatching, Or.inl rfl, rfl, rfl⟩
  · exact ⟨.closingAuthz cb, .closeAuthz, Or.inr rfl, rfl, rfl⟩

/-- A call of `close` is answered, waits for the event `close`, begins the shutdown, or is stored
until the start ends. -/
inductive CloseCalled (server : Server) : Server → Prop where
  | answered (closing : server.closing = true) (closed : server.lifecycle.closed = true) :
      CloseCalled server { server with
        lifecycle := server.lifecycle.noted.call (.calledBack server.lifecycle.callbacks none) }
  | waits (closing : server.closing = true) (unclosed : server.lifecycle.closed = false) :
      CloseCalled server { server with lifecycle := { server.lifecycle.noted with
        waiters := server.lifecycle.waiters ++ [server.lifecycle.callbacks] } }
  | begins {shutdown : Shutdown} {made : ServerCall} (staying : server.closing = false)
      (ready : server.lifecycle.ready = true)
      (begins : Begins (some server.lifecycle.callbacks) shutdown) (plain : made.plain = true) :
      CloseCalled server { server with
        keyed.service.closing := true
        lifecycle := { server.lifecycle.noted with
          shutdown, calls := server.lifecycle.noted.calls ++ [made] } }
  | stored (staying : server.closing = false) (unready : server.lifecycle.ready = false) :
      CloseCalled server { server with
        keyed.service.closing := true
        lifecycle := { server.lifecycle.noted with closeCb := some server.lifecycle.callbacks } }

/-- These are all cases of a call of `close`. -/
theorem close_cases (setup : Setup) (server : Server) : CloseCalled server (server.close setup) := by
  unfold close
  dsimp only
  split
  · next closing =>
      split
      · next closed => exact .answered closing closed
      · next unclosed => exact .waits closing ((Bool.not_eq_true _).mp unclosed)
  · next staying =>
      have staying := (Bool.not_eq_true _).mp staying
      split
      · next ready =>
          obtain ⟨shutdown, made, begins, plain, same⟩ :=
            _close_begins setup server.lifecycle.noted (some server.lifecycle.callbacks)
          have same : _close setup (({ server.lifecycle with
              callbacks := server.lifecycle.callbacks + 1 }).call
                (.closeCalled server.lifecycle.callbacks)) (some server.lifecycle.callbacks) = _ := same
          rw [same]
          exact .begins staying ready begins plain
      · next unready => exact .stored staying ((Bool.not_eq_true _).mp unready)

/-- What each call of `close` keeps, the listeners for `error` keep. -/
theorem error_invariant {property : Server → Prop} (err : JsString) (closes : Nat)
    (emitted : property { server with lifecycle := server.lifecycle.call (.error err) })
    (kept : ∀ before after, property before → CloseCalled before after → property after) :
    property (server.error setup err closes) := by
  have times : ∀ before : Server, property before → property (before.closeTimes setup closes) := by
    induction closes with
    | zero => exact fun before holds => holds
    | succ closes ih =>
        exact fun before holds => ih (before.close setup) (kept _ _ holds (close_cases setup before))
  exact times _ emitted

/-- The last callback of the start begins the shutdown, or the server is ready. -/
inductive Settles (server : Server) (err : Option JsString) : Server → Prop where
  | begins {shutdown : Shutdown} {made : ServerCall}
      (asked : server.lifecycle.closeCb.isSome = true ∨ err ≠ none)
      (begins : Begins server.lifecycle.closeCb shutdown) (plain : made.plain = true) :
      Settles server err { server with lifecycle := { server.lifecycle with
        startup := .done err
        ready := err.isNone
        closeCb := none
        shutdown
        calls := server.lifecycle.calls ++ [made] } }
  | ready (free : server.lifecycle.closeCb = none) (success : err = none) :
      Settles server err { server with lifecycle := { server.lifecycle with
        startup := .done none
        ready := true
        calls := server.lifecycle.calls ++ [.ready] } }

/-- These are all cases of the end of the start. -/
theorem settle_cases (setup : Setup) (server : Server) (err : Option JsString) :
    Settles server err (server.settle setup err) := by
  unfold settle
  dsimp only
  split
  · next asked =>
      obtain ⟨shutdown, made, begins, plain, same⟩ := _close_begins setup
        { server.lifecycle with startup := .done err, ready := err.isNone, closeCb := none }
        server.lifecycle.closeCb
      rw [same]
      refine .begins ?_ begins plain
      simpa [Option.isSome_iff_ne_none] using asked
  · next ready =>
      simp only [Bool.or_eq_true, not_or, Option.not_isSome_iff_eq_none] at ready
      obtain ⟨free, rfl⟩ := ready
      exact .ready free rfl

/-- The loop of `async.each` has begun to close the transports, and `check` listens. -/
def contd (server : Server) (cb : Option Callback) : Server :=
  let closing : Server :=
    { server with lifecycle := { server.lifecycle.closeAll cb with listening := true } }
  if server.lifecycle.transportOps.isEmpty then closing.cont2 cb [] else closing

/-- The second part of the shutdown leaves the connections alone. -/
theorem contd_keyed (server : Server) (cb : Option Callback) :
    (server.contd cb).keyed = server.keyed := by
  unfold contd
  split
  · exact check_keyed _
  · rfl

/-- The continuation that closes the transports destroys all connections. -/
theorem cont_eq (runtime : Runtime) (server : Server) (cb : Option Callback) :
    server.cont runtime cb = (server.contd cb).serve
      { server.keyed with service := server.keyed.service.destroyAll runtime } := by
  let closing : Server := { server with lifecycle := server.lifecycle.closeAll cb }
  let listens : Server := { closing with lifecycle.listening := true }
  unfold cont contd
  dsimp only
  split
  · have same : listens.cont2 cb [] = { closing.cont2 cb [] with lifecycle.listening := true } :=
      check_listening { closing with lifecycle.shutdown := .finishing cb [] }
    have kept : ∀ next : Server, next.keyed = server.keyed →
        next.serve { next.keyed with service := next.keyed.service.destroyAll runtime } =
          next.serve { server.keyed with service := server.keyed.service.destroyAll runtime } := by
      intro next same
      rw [same]
    have destroys := kept { closing.cont2 cb [] with lifecycle.listening := true } (check_keyed _)
    exact destroys.trans (congrArg (fun next : Server => next.serve _) same.symm)
  · rfl

/-- The first part of the shutdown destroys all connections. -/
theorem cont_keyed (runtime : Runtime) (server : Server) (cb : Option Callback) :
    (server.cont runtime cb).keyed =
      { server.keyed with service := server.keyed.service.destroyAll runtime } := by
  rw [cont_eq, serve_keyed]

/-- The close of one transport advances from a stage in which it has not called back. -/
structure Advances (index : Nat) (err : Option JsString) (stages : List CloseStage)
    (last : CloseStage) (failure : Option JsString) (more : List ServerCall) : Prop where
  outstanding : ∃ stage ∈ stages, stage ≠ .calledBack
  clean : err = none → (∀ stage ∈ stages, ∀ err, stage ≠ .wrapped (some err)) →
    failure = none ∧ ∀ err, last ≠ .wrapped (some err)
  plain : ∀ call ∈ more, ServerCall.plain call = true

/-- The close of one transport fails, is the last one, leaves others to wait for, or comes after
another one has failed. -/
inductive TransportClosed (server : Server) (index : Nat) (err : Option JsString) :
    Server → Prop where
  | failed {cb : Option Callback} {stages : List CloseStage} {last : CloseStage}
      {failure : JsString} {more : List ServerCall}
      (phase : server.lifecycle.shutdown = .closingTransports cb stages)
      (advances : Advances index err stages last (some failure) more) :
      TransportClosed server index err { server with lifecycle := { server.lifecycle with
        shutdown := .transportsFailed cb (stages.set index last)
        calls := server.lifecycle.calls ++ more ++
          (cb.map fun cb => ServerCall.calledBack cb (some failure)).toList } }
  | finished {cb : Option Callback} {stages : List CloseStage} {last : CloseStage}
      {more : List ServerCall} (phase : server.lifecycle.shutdown = .closingTransports cb stages)
      (advances : Advances index err stages last none more)
      (all : ∀ stage ∈ stages.set index last, stage = .calledBack) :
      TransportClosed server index err (({ server with lifecycle := { server.lifecycle with
        shutdown := .closingTransports cb (stages.set index last)
        calls := server.lifecycle.calls ++ more } } : Server).cont2 cb (stages.set index last))
  | waiting {cb : Option Callback} {stages : List CloseStage} {last : CloseStage}
      {more : List ServerCall} (phase : server.lifecycle.shutdown = .closingTransports cb stages)
      (advances : Advances index err stages last none more)
      (rest : ¬(∀ stage ∈ stages.set index last, stage = .calledBack)) :
      TransportClosed server index err { server with lifecycle := { server.lifecycle with
        shutdown := .closingTransports cb (stages.set index last)
        calls := server.lifecycle.calls ++ more } }
  | ignored {cb : Option Callback} {stages : List CloseStage} {last : CloseStage}
      {failure : Option JsString} {more : List ServerCall}
      (phase : server.lifecycle.shutdown = .transportsFailed cb stages)
      (advances : Advances index err stages last failure more) :
      TransportClosed server index err { server with lifecycle := { server.lifecycle with
        shutdown := .transportsFailed cb (stages.set index last)
        calls := server.lifecycle.calls ++ more } }
  | late {cb : Option Callback} {stages : List CloseStage} {last : CloseStage}
      {failure : Option JsString} {more : List ServerCall}
      (phase : server.lifecycle.shutdown = .finishing cb stages)
      (advances : Advances index err stages last failure more) :
      TransportClosed server index err { server with lifecycle := { server.lifecycle with
        shutdown := .finishing cb (stages.set index last)
        calls := server.lifecycle.calls ++ more } }

/-- These are all cases of a transport that has closed. -/
theorem transportClosed_cases {index : Nat} {err : Option JsString}
    (closed : server.transportClosed index err = some after) :
    TransportClosed server index err after := by
  have advances : ∀ {stages : List CloseStage} {stage last : CloseStage}
      {failure : Option JsString} {lifecycle : Lifecycle}, stages[index]? = some stage →
      server.lifecycle.closeStage index err stage = some (last, failure, lifecycle) →
      ∃ more, Advances index err stages last failure more ∧
        lifecycle = { server.lifecycle with calls := server.lifecycle.calls ++ more } := by
    intro stages stage last failure lifecycle here ran
    obtain ⟨busy, clean, more, plain, same⟩ := Lifecycle.closeStage_eq_some ran
    have member := List.mem_of_getElem? here
    exact ⟨more, ⟨⟨stage, member, busy⟩, fun none all => clean none (all stage member), plain⟩, same⟩
  unfold transportClosed at closed
  split at closed
  · next cb stages phase =>
      obtain ⟨stage, here, closed⟩ := Option.bind_eq_some_iff.mp closed
      obtain ⟨⟨last, failure, lifecycle⟩, ran, closed⟩ := Option.bind_eq_some_iff.mp closed
      obtain ⟨more, advances, rfl⟩ := advances here ran
      cases failure with
      | some failure =>
          obtain rfl := Option.some.inj closed
          rw [Lifecycle.callBack_eq]
          exact .failed phase advances
      | none =>
          simp only [Option.some.injEq] at closed
          subst closed
          split
          · next all => exact .finished phase advances all
          · next rest => exact .waiting phase advances rest
  · next cb stages phase =>
      obtain ⟨stage, here, closed⟩ := Option.bind_eq_some_iff.mp closed
      obtain ⟨⟨last, failure, lifecycle⟩, ran, closed⟩ := Option.bind_eq_some_iff.mp closed
      obtain ⟨more, advances, rfl⟩ := advances here ran
      obtain rfl := Option.some.inj closed
      exact .ignored phase advances
  · next cb stages phase =>
      obtain ⟨stage, here, closed⟩ := Option.bind_eq_some_iff.mp closed
      obtain ⟨⟨last, failure, lifecycle⟩, ran, closed⟩ := Option.bind_eq_some_iff.mp closed
      obtain ⟨more, advances, rfl⟩ := advances here ran
      obtain rfl := Option.some.inj closed
      exact .late phase advances
  · cases closed

/-- The default authorizer has called back, and the pending authorizations are destroyed. -/
def authzClosed (server : Server) (err : Option JsString) : Server :=
  { server with
    authorization := server.authorization.shutdown
    lifecycle := server.lifecycle.call (.authzClosed err) }

/-- The events of the server lead to these states. -/
inductive Stepped (runtime : Runtime) (setup : Setup) (server : Server) : Event → Server → Prop where
  | authorization {event : Authorization.Event} (authorization : Authorization) :
      Stepped runtime setup server (.authorization event) { server with authorization }
  | keyed {event : KeyedService.Event} {keyed : KeyedService}
      (ran : server.keyed.step runtime event = some keyed)
      (other : event ≠ .service .beginClosing) :
      Stepped runtime setup server (.keyed event) (server.serve keyed)
  | authorized {closes : Nat} {lifecycle : Lifecycle} (starts : server.lifecycle.Starts lifecycle) :
      Stepped runtime setup server (.authorized none closes) { server with lifecycle }
  | refused {err : JsString} {closes : Nat} (phase : server.lifecycle.startup = .authorizing) :
      Stepped runtime setup server (.authorized (some err) closes)
        { server.error setup err closes with lifecycle.startup := .failed err }
  | start {event : Lifecycle.StartEvent} {lifecycle : Lifecycle}
      (starts : server.lifecycle.Starts lifecycle) :
      Stepped runtime setup server (.start event) { server with lifecycle }
  | ready {closes : Nat} {after : Server} (phase : server.lifecycle.startup = .started none)
      (settles : Settles server none after) : Stepped runtime setup server (.tick closes) after
  | failed {err : JsString} {closes : Nat} {after : Server}
      (phase : server.lifecycle.startup = .started (some err))
      (settles : Settles (server.error setup err closes) (some err) after) :
      Stepped runtime setup server (.tick closes) after
  | close {after : Server} (called : CloseCalled server after) :
      Stepped runtime setup server .close after
  | stoppedWatching {cb : Option Callback} (phase : server.lifecycle.shutdown = .stopping cb) :
      Stepped runtime setup server .stoppedWatching { server with lifecycle := { server.lifecycle with
        shutdown := .closingAuthz cb
        calls := server.lifecycle.calls ++ [.closeAuthz] } }
  | authzClosed {cb : Option Callback} (phase : server.lifecycle.shutdown = .closingAuthz cb) :
      Stepped runtime setup server (.authzClosed none) ((server.authzClosed none).cont runtime cb)
  | authzFailed {err : JsString} {cb : Option Callback}
      (phase : server.lifecycle.shutdown = .closingAuthz cb) :
      Stepped runtime setup server (.authzClosed (some err)) { server.authzClosed (some err) with
        lifecycle := { server.lifecycle with
          shutdown := .authzFailed cb
          calls := server.lifecycle.calls ++ [.authzClosed (some err)] ++
            (cb.map fun cb => ServerCall.calledBack cb (some err)).toList } }
  | cont {passes : Bool} {last : Callback} {next : Option Callback} {callbacks : Nat}
      (phase : server.lifecycle.shutdown = .authzFailed (some last))
      (renews : server.lifecycle.newCallback passes = (next, { server.lifecycle with callbacks })) :
      Stepped runtime setup server (.cont passes)
        (({ server with lifecycle.callbacks := callbacks } : Server).cont runtime next)
  | transportClosed {index : Nat} {err : Option JsString} {after : Server}
      (closed : TransportClosed server index err after) :
      Stepped runtime setup server (.transportClosed index err) after
  | cont2 {passes : Bool} {last : Callback} {next : Option Callback} {callbacks : Nat}
      {stages : List CloseStage}
      (phase : server.lifecycle.shutdown = .transportsFailed (some last) stages)
      (renews : server.lifecycle.newCallback passes = (next, { server.lifecycle with callbacks })) :
      Stepped runtime setup server (.cont2 passes)
        (({ server with lifecycle.callbacks := callbacks } : Server).cont2 next stages)

/-- These are all cases of a step of the server. -/
theorem step_cases {event : Event} (stepped : server.step runtime setup event = some after) :
    Stepped runtime setup server event after := by
  cases event with
  | authorization event =>
      cases event with
      | shutdown => cases stepped
      | transportAuthorize config url throws =>
          obtain rfl := Option.some.inj stepped
          exact .authorization _
      | attempt number event =>
          obtain ⟨authorization, _, rfl⟩ := Option.map_eq_some_iff.mp stepped
          exact .authorization authorization
  | keyed event =>
      by_cases begins : event = .service .beginClosing
      · subst begins
        cases stepped
      · have served : ∃ keyed, server.keyed.step runtime event = some keyed ∧
            server.serve keyed = after := by
          unfold step at stepped
          split at stepped <;> simp_all
        obtain ⟨keyed, ran, rfl⟩ := served
        exact .keyed ran begins
  | authorized err closes =>
      simp only [step] at stepped
      split at stepped
      · next phase =>
          obtain rfl := Option.some.inj stepped
          cases err with
          | none =>
              refine .authorized (Lifecycle.startTransport_starts ?_ [])
              rw [phase]
              exact id
          | some err => exact .refused phase
      · cases stepped
  | start event =>
      obtain ⟨lifecycle, ran, rfl⟩ := Option.map_eq_some_iff.mp stepped
      exact .start (Lifecycle.start_starts ran)
  | tick closes =>
      simp only [step] at stepped
      split at stepped
      · next err phase =>
          obtain rfl := Option.some.inj stepped
          cases err with
          | none => exact .ready phase (settle_cases setup server none)
          | some err => exact .failed phase (settle_cases setup _ (some err))
      · cases stepped
  | close =>
      obtain rfl := Option.some.inj stepped
      exact .close (close_cases setup server)
  | stoppedWatching =>
      simp only [step] at stepped
      split at stepped
      · next cb phase =>
          obtain rfl := Option.some.inj stepped
          exact .stoppedWatching phase
      · cases stepped
  | authzClosed err =>
      simp only [step] at stepped
      split at stepped
      · next cb phase =>
          obtain rfl := Option.some.inj stepped
          cases err with
          | none => exact .authzClosed phase
          | some err =>
              simp only [closeTransports, Lifecycle.callBack_eq]
              exact .authzFailed phase
      · cases stepped
  | cont passes =>
      simp only [step] at stepped
      split at stepped
      · next last phase =>
          obtain ⟨next, callbacks, renews⟩ := Lifecycle.newCallback_eq server.lifecycle passes
          rw [renews] at stepped
          obtain rfl := Option.some.inj stepped
          exact .cont phase renews
      · cases stepped
  | transportClosed index err => exact .transportClosed (transportClosed_cases stepped)
  | cont2 passes =>
      simp only [step] at stepped
      split at stepped
      · next last stages phase =>
          obtain ⟨next, callbacks, renews⟩ := Lifecycle.newCallback_eq server.lifecycle passes
          rw [renews] at stepped
          obtain rfl := Option.some.inj stepped
          exact .cont2 phase renews
      · cases stepped

end Server
end Centro
